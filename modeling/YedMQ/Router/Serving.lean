import YedMQ.Router.Route
import YedMQ.Semantics.Alternatives

/-! # The routing as serving groups

The routing serves groups of alternatives: each normal subscription is a group of its own,
and the eligible members of a shared subscription are one, in the order of the rotation.
-/

namespace YedMQ.Router

open Raft Semantics Topic

def handedCopies (effects : List Effect) : List Handed :=
  effects.filterMap fun effect =>
    match effect with
    | .handed copy => some copy
    | _ => none

/-! ## Steps of an outcome -/

namespace Outcome

variable {α β : Type}

def Yields (outcome : Outcome α) (copies : List Handed)
    (result : Except RouterActorError α) : Prop :=
  outcome.result = result ∧ handedCopies outcome.effects = copies

variable {outcome : Outcome α} {next : α → Outcome β} {copies more : List Handed}

theorem yields_pure (value : α) : (pure value : Outcome α).Yields [] (.ok value) :=
  ⟨rfl, rfl⟩

theorem Yields.bind {value : α} {result : Except RouterActorError β}
    (first : outcome.Yields copies (.ok value)) (second : (next value).Yields more result) :
    (outcome >>= next).Yields (copies ++ more) result := by
  have unfolded : outcome >>= next = outcome.bind next := rfl
  rw [unfolded, Outcome.bind, first.1]
  refine ⟨second.1, ?_⟩
  rw [← first.2, ← second.2]
  exact List.filterMap_append

theorem Yields.bind_error {error : RouterActorError}
    (failed : outcome.Yields copies (.error error)) :
    (outcome >>= next).Yields copies (.error error) := by
  have unfolded : outcome >>= next = outcome.bind next := rfl
  rw [unfolded, Outcome.bind, failed.1]
  exact ⟨rfl, failed.2⟩

theorem yields_tell {effect : Effect} (other : ∀ copy, effect ≠ .handed copy) :
    (tell effect).Yields [] (.ok ()) := by
  refine ⟨rfl, ?_⟩
  cases effect with
  | handed copy => exact (other copy rfl).elim
  | cursor | messagesDropped => rfl

end Outcome

section Serving

variable (context : RouteContext) (arrival : Arrival)
variable (candidate : Candidate)

def attempt : Trial RouterActorError Handed :=
  let outcome := deliverToSubscriber context arrival candidate
  match outcome.result with
  | .error error => .failed error
  | .ok false => .missed
  | .ok true => .done (handedCopies outcome.effects).head?

def copyFor : Publish :=
  adjustPublishForSubscriber arrival.publish candidate.subscription.qos
    candidate.subscription.retainAsPublished

/-! ### What a delivery should do -/

def lowerQos : UInt8 :=
  min arrival.publish.qos candidate.subscription.qos

def wayTo (nodeId : NodeId) : Way :=
  if nodeId = context.currentNodeId then .localSession
  else if 0 < lowerQos arrival candidate then .durableRoute nodeId
  else .bestEffortRoute nodeId

/-- The message with the lower QoS, without its packet identifier if that takes it away and
retained only on demand. -/
def lowered : Publish :=
  { arrival.publish with
    qos := lowerQos arrival candidate
    packetIdentifier := if lowerQos arrival candidate = 0 ∧ 0 < arrival.publish.qos then none
      else arrival.publish.packetIdentifier
    retain := arrival.publish.retain && candidate.subscription.retainAsPublished }

/-- The copy for a subscription, on the way to the node of the session. -/
structure IsCopyFor (copy : Handed) : Prop where
  number : copy.number = candidate.number
  publish : copy.publish = lowered arrival candidate
  way : ∃ nodeId, candidate.surroundings.sessionActorMap = .ok (some nodeId) ∧
    copy.way = wayTo context arrival candidate nodeId

/-- The session of a subscription can be reached: it is registered on this node, or the
route to its node takes the message. -/
def Reachable : Prop :=
  ∃ nodeId, candidate.surroundings.sessionActorMap = .ok (some nodeId) ∧
    (nodeId = context.currentNodeId → candidate.surroundings.registered = true) ∧
    (nodeId ≠ context.currentNodeId → 0 < lowerQos arrival candidate →
      candidate.surroundings.enqueued = .ok true)

def needsOutbox : Bool :=
  match candidate.surroundings.sessionActorMap with
  | .ok (some nodeId) => nodeId ≠ context.currentNodeId && 0 < lowerQos arrival candidate
  | _ => false

/-- The session-actor map cannot be read, or the outbox does not take the message. -/
def fails : Bool :=
  !candidate.surroundings.sessionActorMap.isOk ||
    needsOutbox context arrival candidate && !candidate.surroundings.enqueued.isOk

/-- The message has expired when it comes to the outbox. -/
def expires : Bool :=
  needsOutbox context arrival candidate && match candidate.surroundings.enqueued with
    | .ok false => true
    | _ => false

inductive Delivers : Outcome Bool → Prop where
  | reached {copy : Handed} (reachable : Reachable context arrival candidate)
      (own : IsCopyFor context arrival candidate copy)
      (passes : fails context arrival candidate = false)
      (current : expires context arrival candidate = false) : Delivers ⟨[.handed copy], .ok true⟩
  | failed {error : RouterActorError} (unreachable : ¬ Reachable context arrival candidate)
      (fails : fails context arrival candidate = true)
      (current : expires context arrival candidate = false) : Delivers ⟨[], .error error⟩
  | expired (unreachable : ¬ Reachable context arrival candidate)
      (passes : fails context arrival candidate = false)
      (expires : expires context arrival candidate = true) : Delivers ⟨[], .ok true⟩
  | missed (unreachable : ¬ Reachable context arrival candidate)
      (passes : fails context arrival candidate = false)
      (current : expires context arrival candidate = false) : Delivers ⟨[], .ok false⟩

variable {context arrival}

theorem copyFor_eq : copyFor arrival candidate = lowered arrival candidate := by
  have least : lowerQos arrival candidate = if arrival.publish.qos ≤ candidate.subscription.qos
      then arrival.publish.qos else candidate.subscription.qos := rfl
  rw [copyFor, adjustPublishForSubscriber, lowered]
  by_cases lower : arrival.publish.qos ≥ candidate.subscription.qos
  · have chosen : lowerQos arrival candidate = candidate.subscription.qos := by
      rw [least]
      apply UInt8.toNat_inj.mp
      rw [ge_iff_le, UInt8.le_iff_toNat_le] at lower
      simp only [UInt8.le_iff_toNat_le]
      split <;> omega
    rw [chosen, if_pos lower]
    by_cases zero : candidate.subscription.qos = 0 ∧ arrival.publish.qos > 0
    · rw [if_pos zero, if_pos zero]
      cases candidate.subscription.retainAsPublished <;> simp [zero.1]
    · rw [if_neg zero, if_neg zero]
      cases candidate.subscription.retainAsPublished <;> simp
  · have chosen : lowerQos arrival candidate = arrival.publish.qos := by
      rw [least, if_pos]
      rw [ge_iff_le, UInt8.le_iff_toNat_le] at lower
      rw [UInt8.le_iff_toNat_le]
      omega
    have unchanged : ¬ (arrival.publish.qos = 0 ∧ 0 < arrival.publish.qos) := by
      rintro ⟨zero, positive⟩
      rw [zero] at positive
      exact absurd positive (by decide)
    rw [chosen, if_neg lower, if_neg unchanged]
    cases candidate.subscription.retainAsPublished <;> simp

theorem isCopyFor {nodeId : NodeId}
    (found : candidate.surroundings.sessionActorMap = .ok (some nodeId)) :
    IsCopyFor context arrival candidate
      ⟨candidate.number, wayTo context arrival candidate nodeId, copyFor arrival candidate⟩ :=
  ⟨rfl, copyFor_eq candidate, nodeId, found, rfl⟩

theorem shouldRouteDurably_copyFor :
    shouldRouteDurably (copyFor arrival candidate) = true ↔ 0 < lowerQos arrival candidate := by
  rw [copyFor_eq, shouldRouteDurably, decide_eq_true_eq]
  dsimp only [lowered]
  rw [ge_iff_le, UInt8.le_iff_toNat_le, UInt8.lt_iff_toNat_lt]
  exact Nat.succ_le_iff

variable (context arrival) in
theorem deliver_cases : ∃ outcome, deliverToSubscriber context arrival candidate = outcome ∧
    Delivers context arrival candidate outcome := by
  refine ⟨_, rfl, ?_⟩
  rw [deliverToSubscriber]
  split
  · rename_i reason failed
    apply Delivers.failed
    · rintro ⟨nodeId, found, _⟩
      cases failed.symm.trans found
    · simp [fails, failed, Except.isOk, Except.toBool]
    · simp [expires, needsOutbox, failed]
  · rename_i absent
    apply Delivers.missed
    · rintro ⟨nodeId, found, _⟩
      cases absent.symm.trans found
    · simp [fails, needsOutbox, absent, Except.isOk, Except.toBool]
    · simp [expires, needsOutbox, absent]
  · rename_i nodeId found
    have own : IsCopyFor context arrival candidate _ := isCopyFor candidate found
    have passes : fails context arrival candidate =
        (needsOutbox context arrival candidate && !candidate.surroundings.enqueued.isOk) := by
      simp [fails, found, Except.isOk, Except.toBool]
    rw [wayTo] at own
    by_cases remote : nodeId ≠ context.currentNodeId ∧ 0 < lowerQos arrival candidate
    · have needs : needsOutbox context arrival candidate = true := by
        simp [needsOutbox, found, remote]
      have stored : Reachable context arrival candidate →
          candidate.surroundings.enqueued = .ok true := by
        rintro ⟨other, same, _, stored⟩
        cases found.symm.trans same
        exact stored remote.1 remote.2
      rw [if_neg remote.1, if_pos remote.2] at own
      rw [if_pos remote.1, ← copyFor, if_pos ((shouldRouteDurably_copyFor candidate).mpr remote.2)]
      rw [needs, Bool.true_and] at passes
      cases enqueued : candidate.surroundings.enqueued with
      | error =>
        rw [enqueued] at passes stored
        apply Delivers.failed _ passes
        · simp [expires, enqueued]
        · exact fun reachable => nomatch stored reachable
      | ok taken =>
        rw [enqueued] at passes stored
        cases taken with
        | false =>
          apply Delivers.expired _ passes
          · simp [expires, needs, enqueued]
          · exact fun reachable => nomatch stored reachable
        | true =>
          apply Delivers.reached ⟨nodeId, found, fun same => absurd same remote.1,
            fun _ _ => enqueued⟩ own passes
          simp [expires, enqueued]
    · have needless : needsOutbox context arrival candidate = false := by
        simpa [needsOutbox, found] using remote
      have current : expires context arrival candidate = false := by
        simp [expires, needless]
      rw [needless, Bool.false_and] at passes
      by_cases here : nodeId = context.currentNodeId
      · rw [if_pos here] at own
        rw [if_neg (not_not_intro here), routeToLocalSession]
        by_cases registered : candidate.surroundings.registered
        · rw [if_pos registered]
          exact .reached ⟨nodeId, found, fun _ => registered,
            fun elsewhere => absurd here elsewhere⟩ own passes current
        · rw [if_neg registered]
          apply Delivers.missed _ passes current
          rintro ⟨other, same, present, _⟩
          cases found.symm.trans same
          exact registered (present here)
      · have lossy : ¬ 0 < lowerQos arrival candidate := fun durable => remote ⟨here, durable⟩
        rw [if_neg here, if_neg lossy] at own
        rw [if_pos here, ← copyFor, if_neg (mt (shouldRouteDurably_copyFor candidate).mp lossy)]
        exact .reached ⟨nodeId, found, fun same => absurd same here,
          fun _ durable => absurd durable lossy⟩ own passes current

theorem deliver_yields : (deliverToSubscriber context arrival candidate).Yields
      (attempt context arrival candidate).value?.toList
      (attempt context arrival candidate).result := by
  rcases deliver_cases context arrival candidate with ⟨outcome, delivered, delivers⟩
  rw [attempt, delivered]
  cases delivers <;> exact ⟨rfl, rfl⟩

variable {candidate : Candidate}

theorem attempt_of_reachable (reachable : Reachable context arrival candidate) :
    ∃ copy, attempt context arrival candidate = .done (some copy) ∧
      IsCopyFor context arrival candidate copy := by
  rcases deliver_cases context arrival candidate with ⟨outcome, delivered, delivers⟩
  rw [attempt, delivered]
  cases delivers with
  | reached _ own => exact ⟨_, rfl, own⟩
  | failed unreachable | expired unreachable | missed unreachable =>
    exact absurd reachable unreachable

theorem attempt_of_unreachable (unreachable : ¬ Reachable context arrival candidate) :
    (attempt context arrival candidate).value? = none := by
  rcases deliver_cases context arrival candidate with ⟨outcome, delivered, delivers⟩
  rw [attempt, delivered]
  cases delivers with
  | reached reachable => exact absurd reachable unreachable
  | failed | expired | missed => rfl

theorem attempt_failed_iff : (∃ error, attempt context arrival candidate = .failed error) ↔
    fails context arrival candidate = true := by
  rcases deliver_cases context arrival candidate with ⟨outcome, delivered, delivers⟩
  rw [attempt, delivered]
  cases delivers with
  | failed _ fails => simp [fails]
  | reached _ _ passes | expired _ passes | missed _ passes => simp [passes]

theorem attempt_expired_iff : attempt context arrival candidate = .done none ↔
    expires context arrival candidate = true := by
  rcases deliver_cases context arrival candidate with ⟨outcome, delivered, delivers⟩
  rw [attempt, delivered]
  cases delivers with
  | expired _ _ expires => simp [expires, handedCopies]
  | reached _ _ _ current | failed _ _ current | missed _ _ current =>
    simp [current, handedCopies]

/-! ## The loops -/

theorem tryMembers_yields (members : List Candidate) : (tryMembers context arrival members).Yields
      (tryEach (attempt context arrival) members).value?.toList
      (tryEach (attempt context arrival) members).result := by
  induction members with
  | nil => exact ⟨rfl, rfl⟩
  | cons member rest induction =>
    have here : (deliverToSubscriber context arrival member).Yields _ _ :=
      deliver_yields member
    rw [tryEach]
    cases tried : attempt context arrival member with
    | failed =>
      rw [tried] at here
      exact here.bind_error
    | missed =>
      rw [tried] at here
      exact here.bind induction
    | done value =>
      rw [tried] at here
      have stopped : (tryMembers context arrival (member :: rest)).Yields
          (value.toList ++ []) (.ok true) := here.bind (Outcome.yields_pure true)
      rw [List.append_nil] at stopped
      exact stopped

def servedResult (error : Option RouterActorError) : Except RouterActorError Unit :=
  match error with
  | some error => .error error
  | none => .ok ()

variable (arrival) in
def normalGroups (items : List Candidate) : List (List Candidate) :=
  (items.filter fun item => !isExcluded arrival item).map fun item => [item]

variable (context arrival) in
def sharedGroup (candidates : List Candidate) (key : SharedSubscriptionRouteKey) :
    List Candidate :=
  let sorted := sortMembers (eligibleMembers arrival candidates key)
  fallbackOrder sorted (context.cursors key % sorted.length)

theorem tryEach_singleton (item : Candidate) :
    tryEach (attempt context arrival) [item] = attempt context arrival item := by
  rw [tryEach]
  cases attempt context arrival item <;> rfl

theorem deliverNormal_yields (items : List Candidate) : (deliverNormal context arrival items).Yields
      (serve (attempt context arrival) (normalGroups arrival items)).1
      (servedResult (serve (attempt context arrival) (normalGroups arrival items)).2) := by
  induction items with
  | nil => exact ⟨rfl, rfl⟩
  | cons item rest induction =>
    rw [deliverNormal]
    by_cases excluded : isExcluded arrival item
    · have skipped : normalGroups arrival (item :: rest) = normalGroups arrival rest := by
        simp [normalGroups, excluded]
      rw [if_pos excluded, skipped]
      exact induction
    · have kept : normalGroups arrival (item :: rest) = [item] :: normalGroups arrival rest := by
        simp [normalGroups, excluded]
      have here : (deliverToSubscriber context arrival item).Yields _ _ := deliver_yields item
      rw [if_neg excluded, kept, serve, tryEach_singleton]
      cases tried : attempt context arrival item with
      | failed =>
        rw [tried] at here
        exact here.bind_error
      | missed | done =>
        rw [tried] at here
        exact here.bind induction

theorem deliverShared_yields (candidates : List Candidate)
    (keys : List SharedSubscriptionRouteKey) :
    (deliverShared context arrival candidates keys).Yields
      (serve (attempt context arrival) (keys.map (sharedGroup context arrival candidates))).1
      (servedResult (serve (attempt context arrival)
        (keys.map (sharedGroup context arrival candidates))).2) := by
  induction keys with
  | nil => exact ⟨rfl, rfl⟩
  | cons key rest induction =>
    rw [deliverShared, List.map_cons, serve]
    by_cases empty : (eligibleMembers arrival candidates key).isEmpty
    · have nobody : sharedGroup context arrival candidates key = [] := by
        rw [sharedGroup, List.isEmpty_iff.mp empty]
        rfl
      simp only [empty, nobody]
      exact induction
    · have members : (tryMembers context arrival
          (sharedGroup context arrival candidates key)).Yields _ _ := tryMembers_yields _
      have turned : (Outcome.tell (.cursor key (context.cursors key %
          (sortMembers (eligibleMembers arrival candidates key)).length + 1))).Yields []
            (.ok ()) := Outcome.yields_tell (by simp)
      have dropped : (Outcome.tell .messagesDropped).Yields [] (.ok ()) :=
        Outcome.yields_tell (by simp)
      simp only [empty]
      cases tried : tryEach (attempt context arrival)
          (sharedGroup context arrival candidates key) with
      | failed error =>
        rw [tried] at members
        exact turned.bind members.bind_error
      | missed =>
        rw [tried] at members
        exact turned.bind (members.bind (dropped.bind induction))
      | done value =>
        rw [tried] at members
        exact turned.bind (members.bind induction)

variable (context arrival) in
def servedGroups (candidates : List Candidate) : List (List Candidate) :=
  normalGroups arrival (candidates.filter fun candidate => routeKey arrival candidate = none) ++
    (groupKeys context arrival candidates).map (sharedGroup context arrival candidates)

theorem fanOut_yields (candidates : List Candidate) : (fanOut context arrival candidates).Yields
      (serve (attempt context arrival) (servedGroups context arrival candidates)).1
      (servedResult
        (serve (attempt context arrival) (servedGroups context arrival candidates)).2) := by
  have normal : (deliverNormal context arrival (candidates.filter fun candidate =>
      routeKey arrival candidate = none)).Yields _ _ := deliverNormal_yields _
  have shared : (deliverShared context arrival candidates
      (groupKeys context arrival candidates)).Yields _ _ := deliverShared_yields _ _
  rw [servedGroups, serve_append]
  cases failed : (serve (attempt context arrival) (normalGroups arrival
      (candidates.filter fun candidate => routeKey arrival candidate = none))).2 with
  | some error =>
    rw [failed] at normal
    exact normal.bind_error
  | none =>
    rw [failed] at normal
    exact normal.bind shared

/-! ## The groups -/

theorem fallbackOrder_eq_rotate (sorted : List Candidate) (start : Nat) :
    fallbackOrder sorted start = sorted.rotate start :=
  filterMap_eq_rotate sorted start

variable {candidates : List Candidate} {key : SharedSubscriptionRouteKey}

theorem mem_sharedGroup :
    candidate ∈ sharedGroup context arrival candidates key ↔
      candidate ∈ candidates ∧ routeKey arrival candidate = some key ∧
        isExcluded arrival candidate = false := by
  rw [sharedGroup, fallbackOrder_eq_rotate, List.mem_rotate, sortMembers, List.mem_insertionSort,
    eligibleMembers, List.mem_filter, List.mem_filter, decide_eq_true_eq, Bool.not_eq_true',
    and_assoc]

theorem mem_groupKeys :
    key ∈ groupKeys context arrival candidates ↔
      ∃ candidate ∈ candidates, routeKey arrival candidate = some key := by
  rw [groupKeys, (context.order_perm _).mem_iff, List.mem_dedup, List.mem_filterMap]

theorem nodup_number (subscriptions : List (Subscription × Surroundings)) :
    ((number subscriptions).map Candidate.number).Nodup := by
  have numbers : (number subscriptions).map Candidate.number =
      List.range' 0 subscriptions.length := by
    rw [number, List.map_map]
    exact List.zipIdx_map_snd 0 subscriptions
  rw [numbers]
  exact List.nodup_range'

theorem servedGroups_disjoint (numbered : (candidates.map Candidate.number).Nodup) :
    (servedGroups context arrival candidates).Pairwise fun left right =>
      (left.map Candidate.number).Disjoint (right.map Candidate.number) := by
  have same : ∀ left ∈ candidates, ∀ right ∈ candidates,
      left.number = right.number → left = right :=
    fun left first right second => List.inj_on_of_nodup_map numbered first second
  rw [servedGroups, List.pairwise_append]
  refine ⟨?_, ?_, ?_⟩
  · rw [normalGroups, List.pairwise_map]
    have distinct : candidates.Pairwise fun left right => left.number ≠ right.number :=
      List.pairwise_map.mp numbered
    apply ((distinct.filter _).filter _).imp
    intro left right different shared first second
    rw [List.map_singleton, List.mem_singleton] at first second
    exact different (first.symm.trans second)
  · rw [List.pairwise_map]
    have keys : (groupKeys context arrival candidates).Nodup :=
      (context.order_perm _).nodup_iff.mpr (List.nodup_dedup _)
    apply List.Pairwise.imp _ keys
    intro left right different shared first second
    rcases List.mem_map.mp first with ⟨member, mine, numbering⟩
    rcases List.mem_map.mp second with ⟨other, theirs, alike⟩
    have memberKey := mem_sharedGroup.mp mine
    have otherKey := mem_sharedGroup.mp theirs
    have one := same member memberKey.1 other otherKey.1 (numbering.trans alike.symm)
    rw [one, otherKey.2.1] at memberKey
    exact different (Option.some.inj memberKey.2.1).symm
  · intro left first right second shared mine theirs
    rcases List.mem_map.mp first with ⟨item, normal, alone⟩
    rcases List.mem_map.mp second with ⟨_, _, group⟩
    subst alone group
    rcases List.mem_map.mp theirs with ⟨other, member, alike⟩
    rw [List.map_singleton, List.mem_singleton] at mine
    have unkeyed := List.mem_filter.mp (List.mem_filter.mp normal).1
    have keyed := mem_sharedGroup.mp member
    have one := same item unkeyed.1 other keyed.1 (mine.symm.trans alike.symm)
    have unshared := decide_eq_true_eq.mp unkeyed.2
    rw [one, keyed.2.1] at unshared
    cases unshared

end Serving

end YedMQ.Router
