import YedMQ.Semantics.Record
import YedMQ.Session.SessionActor.LockWaiting

/-! # Decisions of the plugins behind what a session does

A session routes and retains messages and subscribes filters on behalf of its client, and
asks the plugins before it handles a PUBLISH or a SUBSCRIBE. Here each such effect is traced
back to the decision that allows it. Two kinds of effects have none of their own: a will
message, and a shared subscription, which is allowed under its full text and stored under
the filter inside.
-/

namespace YedMQ.SessionActor

open Semantics Future

/-! ## Decisions -/

section Decisions

variable (record : Event Op.Answer → Prop)

def AllowsTopic (topic : String) : Prop :=
  ∃ qos : UInt8, record ⟨.call (.authorizePublish topic qos), some true⟩

/-- The topic of the message was allowed, and the message is as the client sent it or as the
plugins have rewritten it. -/
def AllowsMessage (publish : Publish) : Prop :=
  ∃ original : Publish, AllowsTopic record original.topicName ∧
    (publish = original ∨ ∃ (result : MessagePublishResult)
      (modified : String × List UInt8 × Bool × Bool),
      record ⟨.call (.onMessagePublish original), some result⟩ ∧
        result.modifiedMessage = some modified ∧
        publish = applyModifiedMqttMessage original modified)

def AllowsFilter (topicFilter : String) : Prop :=
  ∃ topic : SubscribeTopic, topic.topicFilter = topicFilter ∧
    record ⟨.call (.authorizeSubscribe topic), some true⟩

def ReadsFilter (topicFilter : String) : Prop :=
  ∃ (saved : List (String × SubscriptionState)) (subscription : SubscriptionState),
    record ⟨.access .subscriptions, saved⟩ ∧ (topicFilter, subscription) ∈ saved

variable {record} {later : Event Op.Answer → Prop}

theorem AllowsMessage.mono {publish : Publish} (allows : AllowsMessage record publish)
    (grows : ∀ event, record event → later event) : AllowsMessage later publish := by
  rcases allows with ⟨original, ⟨qos, asked⟩, same | ⟨result, modified, rewritten, change⟩⟩
  · exact ⟨original, ⟨qos, grows _ asked⟩, .inl same⟩
  · exact ⟨original, ⟨qos, grows _ asked⟩, .inr ⟨result, modified, grows _ rewritten, change⟩⟩

variable {topicFilter : String}

theorem AllowsFilter.mono (allows : AllowsFilter record topicFilter)
    (grows : ∀ event, record event → later event) : AllowsFilter later topicFilter := by
  rcases allows with ⟨topic, same, asked⟩
  exact ⟨topic, same, grows _ asked⟩

theorem ReadsFilter.mono (reads : ReadsFilter record topicFilter)
    (grows : ∀ event, record event → later event) : ReadsFilter later topicFilter := by
  rcases reads with ⟨saved, subscription, read, member⟩
  exact ⟨saved, subscription, grows _ read, member⟩

end Decisions

/-! ## The futures -/

/-- A future performs an operation only after the decision behind it. -/
def Grounded (past : List (Event Op.Answer)) : Op → Prop
  | .route publish | .call (.registerRetainPublishPacket publish) =>
    AllowsMessage (· ∈ past) publish
  | .call (.subscribeTopic topicFilter _ _ _) =>
    AllowsFilter (· ∈ past) topicFilter ∨ ReadsFilter (· ∈ past) topicFilter
  | .access (.insertSubscription topicFilter _) | .raft (.subscribeTopic _ _ topicFilter _ _ _) =>
    AllowsFilter (· ∈ past) topicFilter
  | _ => True

def Free : Op → Prop
  | .route _ | .call (.registerRetainPublishPacket _) | .call (.subscribeTopic _ _ _ _)
  | .access (.insertSubscription _ _) | .raft (.subscribeTopic _ _ _ _ _ _) => False
  | _ => True

theorem grounded_of_free {op : Op} (free : Free op) (past : List (Event Op.Answer)) :
    Grounded past op := by
  cases op with
  | route => exact free.elim
  | call what | access what => cases what <;> first | exact free.elim | trivial
  | raft request => cases request <;> first | exact free.elim | trivial
  | _ => trivial

theorem guarded_of_free {α : Type} {future : Fut α} (only : future.Only Free)
    (past : List (Event Op.Answer)) : Guarded Grounded past future := by
  apply guarded_of_only (fun _ => True) only
  · intro past op _ free
    exact grounded_of_free free past
  · intro _ _ _
    trivial
  · trivial

variable (publish : Publish)

variable {past : List (Event Op.Answer)}

theorem guarded_acceptPublish {publish : Publish} (allows : AllowsMessage (· ∈ past) publish)
    (context : ClientContext) : Guarded Grounded past (acceptPublish publish context) := by
  apply guarded_of_only (fun past => AllowsMessage (· ∈ past) publish)
    (only_acceptPublish context publish) _ _ allows
  · intro past op allowed kind
    cases kind with
    | route | registerRetain => exact allowed
    | _ => trivial
  · intro past event allowed
    exact allowed.mono fun _ => List.mem_append_left _

theorem guarded_publishTask (context : ClientContext) :
    Guarded Grounded [] (publishTask publish context) := by
  apply Guarded.finish
  apply Guarded.perform trivial
  intro authorized
  split
  · trivial
  · trivial
  · refine Guarded.perform trivial ?_
    intro now
    split
    · rw [cleanExpiredTombstone]
      split
      · exact ⟨trivial, fun _ => trivial⟩
      · trivial
    · refine Guarded.perform trivial ?_
      intro policy
      have allowed : AllowsTopic (· ∈ [⟨.call (.authorizePublish publish.topicName
          publish.qos), some true⟩, ⟨.now, now⟩, ⟨.call (.onMessagePublish publish),
            policy⟩]) publish.topicName := ⟨publish.qos, List.mem_cons_self⟩
      split
      · trivial
      · split
        · split
          · exact guarded_acceptPublish ⟨publish, allowed, .inl rfl⟩ context
          · rename_i result _ _ modified change
            refine guarded_acceptPublish
              ⟨publish, allowed, .inr ⟨result, modified, ?_, change, rfl⟩⟩ context
            simp
        · trivial

variable (protocolVersion : ProtocolVersion)

theorem guarded_subscribeOne (existing : List String)
    (topic : SubscribeTopic) (past : List (Event Op.Answer)) :
    Guarded Grounded past (subscribeOne protocolVersion existing topic) := by
  rw [subscribeOne]
  split
  · trivial
  · refine Guarded.perform trivial ?_
    intro authorized
    split
    · rename_i allowed
      apply Guarded.perform trivial
      intro policy
      split
      · trivial
      · split
        · refine Guarded.perform ?_ ?_
          · left
            refine ⟨topic, rfl, ?_⟩
            rw [allowed]
            simp
          · intro subscribed
            split
            · split
              · exact ⟨trivial, fun _ => trivial⟩
              · trivial
            · trivial
        · trivial
    · trivial

theorem filter_subscribeAllowed (existing : List String)
    (topic : SubscribeTopic) (item : SubscribeResultItem) :
    (subscribeAllowed protocolVersion existing topic item).Always fun _ outcome =>
      ∀ subscription, outcome.subscription = some subscription →
        subscription.1 = topic.topicFilter := by
  have named : ∀ (qos : Option QoS) (subscription : String × SubscriptionState),
      (qos.map fun qos => (topic.topicFilter, (⟨qos, topic.noLocal,
        topic.retainAsPublished⟩ : SubscriptionState))) = some subscription →
        subscription.1 = topic.topicFilter := by
    intro qos subscription built
    rcases Option.map_eq_some_iff.mp built with ⟨_, _, same⟩
    rw [← same]
  apply Always.perform
  intro subscribed
  split
  · split
    · intro found
      exact named _
    · exact named _
  · intro subscription none
    cases none

theorem allowed_subscribeOne (existing : List String) (topic : SubscribeTopic) :
    (subscribeOne protocolVersion existing topic).Always fun events outcome =>
      ∀ subscription, outcome.subscription = some subscription →
        AllowsFilter (· ∈ events) subscription.1 := by
  have refuses : ∀ (reason : ReasonCode) (events : List (Event Op.Answer))
      (subscription : String × SubscriptionState),
      (refused reason).subscription = some subscription →
        AllowsFilter (· ∈ events) subscription.1 := by
    intro reason events subscription subscribed
    cases subscribed
  rw [subscribeOne]
  split
  · exact refuses _ _
  · refine Always.perform ?_
    intro authorized
    split
    · rename_i allowed
      apply Always.perform
      intro policy
      split
      · exact refuses _ _
      · split
        · rename_i item _
          apply (filter_subscribeAllowed protocolVersion existing topic item).mono
          intro events outcome named subscription subscribed
          rw [named subscription subscribed]
          refine ⟨topic, rfl, ?_⟩
          rw [allowed]
          exact List.mem_cons_self
        · exact refuses _ _
    · exact refuses _ _

theorem allowed_doHandleSubscribe (subscribe : Subscribe) (existing : List String) :
    (doHandleSubscribe subscribe existing).Always fun events outcomes =>
      ∀ outcome ∈ outcomes, ∀ subscription, outcome.subscription = some subscription →
        AllowsFilter (· ∈ events) subscription.1 := by
  rw [doHandleSubscribe]
  split
  · intro outcome member subscription subscribed
    rcases List.mem_map.mp member with ⟨_, _, same⟩
    rw [← same] at subscribed
    cases subscribed
  · apply always_collect
    · intro topic _
      apply Always.bind
      apply (allowed_subscribeOne _ existing topic).mono
      intro events outcome allowed value kept
      cases kept
      rw [List.append_nil]
      exact allowed
    · intro before events after outcome allowed subscription subscribed
      apply (allowed subscription subscribed).mono
      intro event member
      exact List.mem_append_left _ (List.mem_append_right _ member)

theorem guarded_storeSubscription (context : ClientContext)
    (subscription : String × SubscriptionState) (allowed : AllowsFilter (· ∈ past) subscription.1) :
    Guarded Grounded past (storeSubscription context subscription) := by
  rw [storeSubscription]
  split
  · exact ⟨allowed, fun _ => trivial⟩
  · refine Guarded.perform allowed ?_
    intro answer
    split
    · trivial
    · exact ⟨allowed.mono fun _ => List.mem_append_left _, fun _ => trivial⟩

theorem guarded_handleSubscribe (subscribe : Subscribe) (context : ClientContext) :
    Guarded Grounded [] (handleSubscribe subscribe context) := by
  apply Guarded.perform trivial
  intro existing
  apply Guarded.bind
  · rw [doHandleSubscribe]
    split
    · trivial
    · apply guarded_collect
      intro topic _ more
      exact Guarded.finish (guarded_subscribeOne _ _ topic _)
  · apply (allowed_doHandleSubscribe subscribe _).mono
    intro events outcomes allowed
    apply Guarded.bind
    · apply guarded_of_free
      apply only_forEach
      intro retained _
      rw [writeRetained]
      split
      · refine Only.perform trivial ?_
        intro now
        split
        · trivial
        · exact ⟨trivial, fun _ => trivial⟩
      · trivial
    · apply always_of_forall
      intro written _
      apply Guarded.perform trivial
      intro _
      apply guarded_forEach
      intro subscription member more
      rcases List.mem_filterMap.mp member with ⟨outcome, listed, subscribed⟩
      apply guarded_storeSubscription
      apply (allowed outcome listed subscription subscribed).mono
      intro event performed
      simp [performed]

/-! ## Recovered subscriptions -/

theorem guarded_recoverSubscriptions (saved : List (String × SubscriptionState))
    (read : ⟨.access .subscriptions, saved⟩ ∈ past) :
    Guarded Grounded past (recoverSubscriptions saved) := by
  apply guarded_forEach
  intro subscription member more
  refine ⟨.inr ⟨saved, subscription.2, ?_, member⟩, fun _ => trivial⟩
  exact List.mem_append_left _ read

theorem guarded_recoverSession (session : Session) :
    Guarded Grounded [] (recoverSession session) := by
  apply Guarded.perform trivial
  intro started
  split
  · refine Guarded.perform trivial ?_
    intro saved
    apply Guarded.perform trivial
    intro _
    split
    · trivial
    · refine Guarded.perform trivial ?_
      intro _
      apply Guarded.finish
      apply guarded_recoverSubscriptions
      simp
  · exact ⟨trivial, fun _ => trivial⟩

theorem free_postStored (key : String) :
    (postStored protocolVersion key).Only Free :=
  only_postStored protocolVersion key trivial trivial fun _ => trivial

theorem guarded_resumeSession : Guarded Grounded [] (resumeSession protocolVersion) := by
  apply Guarded.perform trivial
  intro _
  apply Guarded.perform trivial
  intro keys
  apply Guarded.bind
  · apply guarded_of_free
    apply only_forEach
    intro key _
    exact free_postStored protocolVersion key
  · apply always_of_forall
    intro posted _
    apply Guarded.perform trivial
    intro saved
    apply Guarded.finish
    apply guarded_recoverSubscriptions
    simp

theorem guarded_program {start : SessionStart} (program : AnyProgram start) :
    (∃ willMessage completion, start.future = sendWill willMessage completion) ∨
      Guarded Grounded [] start.future := by
  have delivery : ∀ context op, DeliveryOp context op → Free op := by
    intro context op kind
    cases kind <;> trivial
  have retry : ∀ context op, RetryOp context op → Free op := by
    intro context op kind
    cases kind <;> trivial
  rcases program with ⟨owner, plain | ⟨kind, id⟩⟩
  swap
  · right
    apply guarded_of_free
    apply (only_ackTask kind id owner).mono
    intro op kind
    cases kind <;> trivial
  cases plain with
  | will willMessage completion => exact .inl ⟨willMessage, completion, rfl⟩
  | recovery session => exact .inr (guarded_recoverSession session)
  | resume protocolVersion => exact .inr (guarded_resumeSession protocolVersion)
  | publish publish => exact .inr (guarded_publishTask publish owner)
  | subscribe subscribe => exact .inr (guarded_handleSubscribe subscribe owner).finish
  | unsubscribe unsubscribe =>
    right
    apply guarded_of_free
    apply (only_unsubscribeTask owner unsubscribe).mono
    intro op kind
    cases kind <;> trivial
  | pop session =>
    exact .inr (guarded_of_free (only_popPendingOnce session trivial (free_postStored _)) [])
  | delivery mode publish context reserved =>
    exact .inr (guarded_of_free
      ((only_deliveryTask publish context reserved).mono (delivery context)) [])
  | registered deferred context reserved =>
    exact .inr (guarded_of_free
      ((only_registeredTask context deferred reserved).mono (retry context)) [])
  | retry context deferredPacketIds =>
    exact .inr (guarded_of_free
      ((only_retryTask context deferredPacketIds).mono (retry context)) [])
  | retryAll context =>
    exact .inr (guarded_of_free ((only_retryAllTask context).mono (retry context)) [])
  | cleanupLocal =>
    right
    apply guarded_of_free
    apply only_cleanupLocal.mono
    intro op kind
    cases kind <;> trivial
  | cleanupRaft | lifecycle | disconnectedHook | protocolError | disconnection
  | connectionState | deletion | stopNotice => exact .inr ⟨trivial, fun _ => trivial⟩

/-! ## Whole runs -/

section Runs

variable (earlier : Set String)

def Known (system : SessionSystem) (topicFilter : String) : Prop :=
  topicFilter ∈ earlier ∨ AllowsFilter system.Performed topicFilter

def Performing (system : SessionSystem) (input : SessionInput)
    (task : Task Op.Answer Completion) (op : Op) : Prop :=
  ∃ place choose resume, input = .poll place choose ∧
    system.taskAt behaviour place = some task ∧ task.current = .await op resume

/-- What the step routes, retains or subscribes was allowed before: messages under their
topic, filters under the text that is stored and matched. -/
structure Mediated (system : SessionSystem) (input : SessionInput) : Prop where
  routed : ∀ task publish, Performing system input task (.route publish) →
    AllowsMessage system.Performed publish
  retained : ∀ task publish,
    Performing system input task (.call (.registerRetainPublishPacket publish)) →
      AllowsMessage system.Performed publish
  subscribed : ∀ task topicFilter qos noLocal retainAsPublished, Performing system input task
      (.call (.subscribeTopic topicFilter qos noLocal retainAsPublished)) →
      ∀ stored, Topic.parseFilter topicFilter = .ok stored → Known earlier system stored.topicFilter

/-- The decisions that the session does not ask for: about the topic of a will message, and
about the filter inside a shared subscription. -/
structure Vetted (system : SessionSystem) (input : SessionInput) : Prop where
  will : ∀ task publish willMessage completion, Performing system input task (.route publish) →
      task.program = sendWill willMessage completion → AllowsMessage system.Performed publish
  shared : ∀ task topicFilter qos noLocal retainAsPublished, Performing system input task
      (.call (.subscribeTopic topicFilter qos noLocal retainAsPublished)) →
      ∀ stored, Topic.parseFilter topicFilter = .ok stored →
        stored.sharedGroup.isSome = true → Known earlier system stored.topicFilter

/-- What the step saves in the session state or asks raft to save was allowed before, as the
client wrote it. -/
structure SavesAllowed (system : SessionSystem) (input : SessionInput) : Prop where
  saved : ∀ task topicFilter subscription,
    Performing system input task (.access (.insertSubscription topicFilter subscription)) →
      Known earlier system topicFilter
  replicated : ∀ task tenantId clientId topicFilter qos noLocal retainAsPublished,
    Performing system input task (.raft (.subscribeTopic tenantId clientId topicFilter qos
      noLocal retainAsPublished)) → Known earlier system topicFilter

structure Traced (system : SessionSystem) : Prop where
  programs : system.Programs AnyProgram
  saved : ∀ topicFilter ∈ system.shared.state.subscriptions, Known earlier system topicFilter
  read : ∀ topicFilter, ReadsFilter system.Performed topicFilter → Known earlier system topicFilter

variable {earlier}

variable {system next : SessionSystem} {input : SessionInput} {topicFilter : String}

theorem Known.step (known : Known earlier system topicFilter)
    (stepped : step system input = some next) :
    Known earlier next topicFilter := by
  rcases known with before | allowed
  · exact .inl before
  · exact .inr (allowed.mono fun _ performed => performed.step stepped)

variable {task : Task Op.Answer Completion}

theorem performed_of_mem {place : Place} (found : system.taskAt behaviour place = some task)
    {event : Event Op.Answer} (member : event ∈ task.events) : system.Performed event := by
  rcases System.exists_turn found with ⟨_, _, turn⟩
  exact ⟨task, .inl ⟨place.mode, turn.mem⟩, member⟩

/-- An operation is that of a will message or follows a decision. -/
theorem Traced.grounded (traced : Traced earlier system) {op : Op}
    (performing : Performing system input task op) :
    (∃ willMessage completion, task.program = sendWill willMessage completion) ∨
      Grounded task.events op := by
  rcases performing with ⟨place, _, _, _, found, suspended⟩
  rcases System.exists_turn found with ⟨_, _, turn⟩
  have program : AnyProgram ⟨place.mode, task.program⟩ :=
    traced.programs.live place.mode task turn.mem
  rcases guarded_program program with will | guarded
  · exact .inl will
  · have now := guarded.follows task.follows
    rw [suspended] at now
    exact .inr now.1

theorem routes_sendWill (willMessage : Option WillMessage) (completion : Completion) :
    (sendWill willMessage completion).Only fun op => ∀ past, (∃ publish, op = .route publish) ∨
      Grounded past op := by
  cases willMessage with
  | none => trivial
  | some =>
    apply Only.perform (fun _ => .inr trivial)
    intro now
    exact ⟨fun _ => .inl ⟨_, rfl⟩, fun _ => trivial⟩

/-- An operation that routes nothing follows a decision. -/
theorem Traced.grounded_of_ne (traced : Traced earlier system) {op : Op}
    (performing : Performing system input task op) (other : ∀ publish, op ≠ .route publish) :
    Grounded task.events op := by
  rcases traced.grounded performing with ⟨willMessage, completion, named⟩ | grounded
  · rcases performing with ⟨_, _, _, _, _, suspended⟩
    have follows := task.follows
    rw [named, suspended] at follows
    rcases ((routes_sendWill willMessage completion).follows follows).2.1 task.events with
      ⟨publish, routes⟩ | grounded
    · exact absurd routes (other publish)
    · exact grounded
  · exact grounded

theorem Performing.performed {op : Op} (performing : Performing system input task op)
    (event : Event Op.Answer) (member : event ∈ task.events) : system.Performed event := by
  rcases performing with ⟨_, _, _, _, found, _⟩
  exact performed_of_mem found member

theorem mem_subscriptions_run {now : Nat} {orders : Access.Orders} {state after : SessionState}
    {what : Access} {result : what.Result} (runs : what.run now orders state = some (after, result))
    (member : topicFilter ∈ after.subscriptions) :
    topicFilter ∈ state.subscriptions ∨
      ∃ subscription, what = .insertSubscription topicFilter subscription := by
  cases what with
  | insertSubscription topic subscription =>
    cases runs
    by_cases same : topicFilter = topic
    · subst same
      exact .inr ⟨subscription, rfl⟩
    · left
      exact (Finmap.mem_insert.mp member).resolve_left same
  | removeSubscription =>
    cases runs
    exact .inl (Finmap.mem_erase.mp member).2
  | subscriptions | unsentItems | cleanFinishedItems | expiredEntries | allEntries =>
    rw [Access.run] at runs
    split at runs
    · cases runs
      exact .inl member
    · cases runs
  | registerTxIfAbsent =>
    rw [Access.run] at runs
    split at runs
    · split at runs <;>
      · cases runs
        exact .inl member
    · cases runs
      exact .inl member
  | _ =>
    cases runs
    exact .inl member

theorem mem_subscriptions_step (stepped : step system input = some next)
    (member : topicFilter ∈ next.shared.state.subscriptions) :
    topicFilter ∈ system.shared.state.subscriptions ∨ ∃ task subscription,
      Performing system input task (.access (.insertSubscription topicFilter subscription)) := by
  cases input with
  | receive =>
    rcases System.step_receive stepped with ⟨shared, starts, _, _, received, result⟩
    rw [result, System.shared_startAll] at member
    have same : shared.state = system.shared.state := (shares_receive received).state
    left
    rw [← same]
    exact member
  | finish =>
    rcases System.step_finish stepped with ⟨before, task, after, value, shared, starts, _, _,
      _, completed, result⟩
    rw [result, System.shared_startAll] at member
    have shares := shares_complete task.id value system.shared
    have handled : complete task.id value system.shared = (shared, starts) := completed
    rw [handled] at shares
    left
    rw [shares.state] at member
    exact member
  | park =>
    rcases System.step_park stepped with ⟨_, _, _, _, _, _, _, _, parked, result⟩
    rw [result, (park_eq_some parked).2] at member
    exact .inl member
  | environment =>
    rcases System.step_environment stepped with ⟨shared, changed, result⟩
    rcases surroundings_fields changed with ⟨_, _, _, _, fields⟩
    rw [result, fields] at member
    exact .inl member
  | poll place choose =>
    rcases System.step_poll stepped with ⟨_, task, _, op, resume, shared, answer,
      suspended, found, _, performs, result⟩
    have performed : perform task.id system.shared op (choose op) = some (shared, answer) :=
      performs
    rw [result] at member
    have here : topicFilter ∈ shared.state.subscriptions := member
    cases op with
    | access =>
      rcases perform_access performed with ⟨_, _, runs, changed⟩
      rw [changed] at here
      rcases mem_subscriptions_run runs here with old | ⟨subscription, inserts⟩
      · exact .inl old
      · subst inserts
        exact .inr ⟨task, subscription, place, choose, resume, rfl, found, suspended⟩
    | _ =>
      rw [(perform_frame performed).state (by simp)] at here
      exact .inl here

theorem Traced.step (traced : Traced earlier system) (stepped : step system input = some next) :
    Traced earlier next where
  programs := programs_step traced.programs stepped
  saved := by
    intro topicFilter member
    rcases mem_subscriptions_step stepped member with old | ⟨task, subscription, performing⟩
    · exact (traced.saved topicFilter old).step stepped
    · have allowed : AllowsFilter (· ∈ task.events) topicFilter :=
        traced.grounded_of_ne performing (by simp)
      have known : Known earlier system topicFilter :=
        .inr (allowed.mono performing.performed)
      exact known.step stepped
  read := by
    intro topicFilter ⟨saved, subscription, read, listed⟩
    rcases System.performed_or_of_step read stepped with before | ⟨_, choose, task, _,
      _, _, _, _, _, performs, same⟩
    · exact (traced.read topicFilter ⟨saved, subscription, before, listed⟩).step stepped
    · cases same
      have performed : perform task.id system.shared (.access .subscriptions)
        (choose (.access .subscriptions)) = some (next.shared, saved) := performs
      rcases perform_access performed with ⟨_, state, runs, _⟩
      have present : topicFilter ∈ system.shared.state.subscriptions := by
        simp only [Access.run] at runs
        split at runs
        · rename_i order
          cases runs
          have counted : (topicFilter, subscription) ∈ listedSubscriptions system.shared.state := by
            rw [← order]
            exact listed
          rcases Multiset.mem_map.mp counted with ⟨_, inside, same⟩
          cases same
          exact Finmap.mem_def.mpr (Multiset.mem_map_of_mem Sigma.fst inside)
        · cases runs
      exact (traced.saved topicFilter present).step stepped

theorem traced_initial {session : Session}
    (saved : ∀ topicFilter ∈ session.state.subscriptions, topicFilter ∈ earlier) :
    Traced earlier (initial session) where
  programs := programs_initial session
  saved := by
    intro topicFilter member
    exact .inl (saved topicFilter member)
  read := by
    intro topicFilter ⟨_, _, read, _⟩
    rw [initial, System.performed_startAll] at read
    rcases read with ⟨task, ⟨mode, member⟩ | member, _⟩ <;> cases member

theorem Traced.mediated_iff (traced : Traced earlier system) (input : SessionInput) :
    Mediated earlier system input ↔ Vetted earlier system input := by
  constructor
  · intro mediated
    constructor
    · intro task publish _ _ performing _
      exact mediated.routed task publish performing
    · intro task topicFilter qos noLocal retainAsPublished performing stored parsed _
      exact mediated.subscribed task topicFilter qos noLocal retainAsPublished performing stored
        parsed
  · intro vetted
    refine ⟨?_, ?_, ?_⟩
    · intro task publish performing
      rcases traced.grounded performing with ⟨willMessage, completion, named⟩ | grounded
      · exact vetted.will task publish willMessage completion performing named
      · have allowed : AllowsMessage (· ∈ task.events) publish := grounded
        exact allowed.mono performing.performed
    · intro task publish performing
      have allowed : AllowsMessage (· ∈ task.events) publish :=
        traced.grounded_of_ne performing (by simp)
      exact allowed.mono performing.performed
    · intro task topicFilter qos noLocal retainAsPublished performing stored parsed
      cases grouped : stored.sharedGroup with
      | some =>
        apply vetted.shared task topicFilter qos noLocal retainAsPublished performing stored parsed
        rw [grouped]
        rfl
      | none =>
        -- A filter without a group is stored as it is.
        have same : stored.topicFilter = topicFilter := by
          rw [Topic.parseFilter] at parsed
          split at parsed
          · cases parsed
          · cases parsed
            cases grouped
          · cases parsed
            rfl
        have cleared : AllowsFilter (· ∈ task.events) topicFilter ∨
            ReadsFilter (· ∈ task.events) topicFilter :=
          traced.grounded_of_ne performing (by simp)
        rw [same]
        rcases cleared with allowed | reads
        · exact .inr (allowed.mono performing.performed)
        · exact traced.read topicFilter (reads.mono performing.performed)

theorem Traced.savesAllowed (traced : Traced earlier system) (input : SessionInput) :
    SavesAllowed earlier system input := by
  constructor
  · intro task topicFilter subscription performing
    have allowed : AllowsFilter (· ∈ task.events) topicFilter :=
      traced.grounded_of_ne performing (by simp)
    exact .inr (allowed.mono performing.performed)
  · intro task tenantId clientId topicFilter qos noLocal retainAsPublished performing
    have allowed : AllowsFilter (· ∈ task.events) topicFilter :=
      traced.grounded_of_ne performing (by simp)
    exact .inr (allowed.mono performing.performed)

end Runs

/-- In every run of a session whose saved filters were allowed before, each step is mediated
if and only if the topics of will messages and the filters inside shared subscriptions were
allowed. What the run saves is always allowed. -/
theorem eachStep_mediated_iff (earlier : Set String) (session : Session)
    (inputs : List SessionInput)
    (saved : ∀ topicFilter ∈ session.state.subscriptions, topicFilter ∈ earlier) :
    (EachStep step (Mediated earlier) (initial session) inputs ↔
      EachStep step (Vetted earlier) (initial session) inputs) ∧
      EachStep step (SavesAllowed earlier) (initial session) inputs := by
  have traced : ∀ visited reached, run step (initial session) visited = some reached →
      Traced earlier reached := by
    intro visited reached runs
    apply run_invariant _ (traced_initial saved) runs
    intro system input next traced stepped
    exact traced.step stepped
  refine ⟨⟨?_, ?_⟩, ?_⟩
  · intro mediated visited input isPrefix reached next runs stepped
    exact ((traced visited reached runs).mediated_iff input).mp
      (mediated visited input isPrefix reached next runs stepped)
  · intro vetted visited input isPrefix reached next runs stepped
    exact ((traced visited reached runs).mediated_iff input).mpr
      (vetted visited input isPrefix reached next runs stepped)
  · intro visited input _ reached _ runs _
    exact (traced visited reached runs).savesAllowed input

def recorded (select : Event Op.Answer → Option String) (system : SessionSystem) :
    List String :=
  ([.wait, .spawn, .detach].flatMap system.tasks ++ system.finished).flatMap fun task =>
    task.events.filterMap select

def askedAbout : Event Op.Answer → Option String
  | ⟨.call (.authorizePublish topic _), _⟩ => some topic
  | ⟨.call (.authorizeSubscribe topic), _⟩ => some topic.topicFilter
  | _ => none

def subscribedAs : Event Op.Answer → Option String
  | ⟨.call (.subscribeTopic topicFilter _ _ _), _⟩ => some topicFilter
  | _ => none

def savedFilter : String × SubscriptionState :=
  ("saved", ⟨.atMostOnce, false, false⟩)

def returningSession : Session :=
  { persistentSession with
    state := { persistentSession.state with
      subscriptions := .insert savedFilter.1 savedFilter.2 ∅ } }

/-- A session recovers its saved filter, publishes a retained message and subscribes to
another filter. -/
def publishesAndSubscribes : List SessionInput :=
  List.replicate 5 (pollTop ⟨[savedFilter], [], []⟩) ++ [.finish ⟨.wait, 0⟩, pollTop noOrders,
    .finish ⟨.wait, 0⟩, .receive] ++ List.replicate 3 (pollTop noOrders) ++ [.finish ⟨.wait, 0⟩,
      .environment (.post (.inboundPacket (.publish { somePublish none with
        qos := 0, retain := true }))), .receive] ++
    List.replicate 7 (.poll ⟨.spawn, 0⟩ (granting "k" noOrders)) ++ [.finish ⟨.spawn, 0⟩,
      .environment (.post (.inboundPacket (.subscribe
        { protocolVersion := .v5_0, packetIdentifier := 1, subscriptionIdentifiers := []
          topics := [⟨"b", 0, false, false, .doNotSend⟩] }))), .receive] ++
    List.replicate 7 (pollTop ⟨[savedFilter], [], []⟩) ++ [.finish ⟨.wait, 0⟩]

theorem eachStep_mediated_iff_returningSession :
    (∃ final, run step (initial returningSession) publishesAndSubscribes = some final ∧
      final.shared.routed.map (·.2.topicName) = ["a"] ∧
      recorded subscribedAs final = ["b", "saved"]) ∧
    (EachStep step (Mediated {"saved"}) (initial returningSession) publishesAndSubscribes ↔
      EachStep step (Vetted {"saved"}) (initial returningSession) publishesAndSubscribes) ∧
    EachStep step (SavesAllowed {"saved"}) (initial returningSession) publishesAndSubscribes := by
  constructor
  · have seen : (run step (initial returningSession) publishesAndSubscribes).map (fun final =>
        (final.shared.routed.map (·.2.topicName), recorded subscribedAs final)) =
          some (["a"], ["b", "saved"]) := by
      decide +kernel
    rcases Option.map_eq_some_iff.mp seen with ⟨final, runs, known⟩
    exact ⟨final, runs, congrArg Prod.fst known, congrArg Prod.snd known⟩
  · apply eachStep_mediated_iff
    intro topicFilter member
    rcases Finmap.mem_insert.mp member with saved | other
    · exact saved
    · exact absurd other Finmap.notMem_empty

def willSession : Session :=
  { persistentSession with willMessage := some ⟨.v5_0, "secret", [1], 0, false, none⟩ }

def losesConnection : List SessionInput :=
  startUp ++ [.environment (.post .unexpectClientDisconnected), .receive] ++
    List.replicate 2 (pollTop noOrders)

def subscribesShared : List SessionInput :=
  startUp ++ [.environment (.post (.inboundPacket (.subscribe
    { protocolVersion := .v5_0, packetIdentifier := 1, subscriptionIdentifiers := []
      topics := [⟨"$share/g/secret", 0, false, false, .doNotSend⟩] }))), .receive] ++
    List.replicate 4 (pollTop noOrders)

/-- A will message is routed though the plugins were asked nothing, and a filter is
subscribed though they were asked about another text. -/
theorem unasked_effects :
    (∃ final, run step (initial willSession) losesConnection = some final ∧
      final.shared.routed.map (·.2.topicName) = ["secret"] ∧
      recorded askedAbout final = []) ∧
    (∃ final, run step (initial persistentSession) subscribesShared = some final ∧
      recorded subscribedAs final = ["$share/g/secret"] ∧
      recorded askedAbout final = ["$share/g/secret"]) ∧
    Topic.parseFilter "$share/g/secret" = .ok ⟨"secret", some "g"⟩ := by
  refine ⟨?_, ?_, by decide⟩
  · have seen : (run step (initial willSession) losesConnection).map (fun final =>
        (final.shared.routed.map (·.2.topicName), recorded askedAbout final)) =
          some (["secret"], []) := by
      decide +kernel
    rcases Option.map_eq_some_iff.mp seen with ⟨final, runs, known⟩
    exact ⟨final, runs, congrArg Prod.fst known, congrArg Prod.snd known⟩
  · have seen : (run step (initial persistentSession) subscribesShared).map (fun final =>
        (recorded subscribedAs final, recorded askedAbout final)) =
          some (["$share/g/secret"], ["$share/g/secret"]) := by
      decide +kernel
    rcases Option.map_eq_some_iff.mp seen with ⟨final, runs, known⟩
    exact ⟨final, runs, congrArg Prod.fst known, congrArg Prod.snd known⟩

end YedMQ.SessionActor
