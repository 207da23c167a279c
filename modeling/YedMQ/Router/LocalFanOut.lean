import YedMQ.Router.Rotation

/-! # Fan-out on one node

A message without a publisher whose subscribers are all on this node can be routed, or
published to the local subscribers. The two ways find the groups in hash maps of their own.
-/

namespace YedMQ.Router.Locally

open Topic Outcome

variable (effects : List Effect) (key : SharedSubscriptionRouteKey)

def turns : List Nat :=
  effects.filterMap fun effect =>
    match effect with
    | .cursor group next => if group = key then some next else none
    | _ => none

def cursorAfter (context : RouteContext) : Nat :=
  (turns effects key).getLastD (context.cursors key)

variable {effects key} {next : Nat}

theorem mem_turns (turned : next ∈ turns effects key) : .cursor key next ∈ effects := by
  rcases List.mem_filterMap.mp turned with ⟨effect, member, found⟩
  cases effect with
  | cursor group =>
    dsimp only at found
    split at found
    · rename_i same
      cases found
      exact same ▸ member
    · cases found
  | handed | messagesDropped => cases found

variable {context other : RouteContext} {arrival : Arrival} {candidates : List Candidate}
  {subscriptions : List (Subscription × Surroundings)}

/-- The groups are visited independently of each other. -/
theorem deliverSharedLocally_effects (same : other.cursors = context.cursors)
    (keys : List SharedSubscriptionRouteKey) :
    (deliverSharedLocally other arrival candidates keys).effects = keys.flatMap fun key =>
      (deliverSharedLocally context arrival candidates [key]).effects := by
  induction keys with
  | nil => rfl
  | cons key rest induction =>
    rw [List.flatMap_cons, ← induction, deliverSharedLocally, deliverSharedLocally, same]
    generalize fallbackOrder _ _ = order
    rcases tryMembersLocally_ok arrival order with ⟨delivered, passed⟩
    rw [effects_tell, effects_tell, effects_bind passed, effects_bind passed, List.cons_append,
      List.append_assoc]
    rfl

theorem publishToLocalSubscribers_perm (same : other.cursors = context.cursors) :
    (publishToLocalSubscribers other arrival (.ok subscriptions)).effects.Perm
      (publishToLocalSubscribers context arrival (.ok subscriptions)).effects := by
  have keys : (groupKeys other arrival (number subscriptions)).Perm
      (groupKeys context arrival (number subscriptions)) :=
    (other.order_perm _).trans (context.order_perm _).symm
  rw [publishToLocalSubscribers, publishToLocalSubscribers]
  split
  · exact .nil
  · cases ended : (deliverNormalLocally arrival ((number subscriptions).filter
        fun candidate => routeKey arrival candidate = none)).result with
    | error => rw [effects_bind_error ended, effects_bind_error ended]
    | ok value =>
      rw [effects_bind ended, effects_bind ended, deliverSharedLocally_effects same,
        deliverSharedLocally_effects (rfl : context.cursors = context.cursors)]
      exact (keys.flatMap_right _).append_left _

/-- Whatever the order of the groups, publishing to the local subscribers hands out the
copies that routing hands out, and leaves the same cursors. -/
theorem publishToLocalSubscribers_agrees
    (anonymous : arrival.sourceClientIdentifier = none)
    (found : arrival.matching = .ok subscriptions)
    (mapped : ∀ item ∈ subscriptions, item.2.sessionActorMap = .ok (some context.currentNodeId))
    (same : other.cursors = context.cursors) :
    (handedCopies (publishToLocalSubscribers other arrival (.ok subscriptions)).effects).Perm
      (handedCopies (route context arrival).effects) ∧
    ∀ key, cursorAfter (publishToLocalSubscribers other arrival (.ok subscriptions)).effects key
      other = cursorAfter (route context arrival).effects key context := by
  have located : (number subscriptions).map (here context) = number subscriptions := by
    rw [number, List.map_map]
    apply List.map_congr_left
    intro item member
    have place := mapped item.1 (List.fst_mem_of_mem_zipIdx member)
    rw [Function.comp_apply, here, ← place]
  have unnamed : arrival.anonymous = arrival := by
    rw [Arrival.anonymous, ← anonymous]
  have fanned : kept (publishToLocalSubscribers context arrival (.ok subscriptions)).effects =
      kept (route context arrival).effects := by
    have published := Call.kept_outcome
      (.publishToLocalSubscribers context arrival (.ok subscriptions))
    have routed := Call.kept_outcome (.route context arrival)
    simp only [Call.outcome, Call.context, Call.arrival, Call.candidates, unnamed, located, found]
      at published routed
    rw [published, routed]
  have permuted : (kept (publishToLocalSubscribers other arrival (.ok subscriptions)).effects).Perm
      (kept (route context arrival).effects) :=
    fanned ▸ (publishToLocalSubscribers_perm same).filter _
  constructor
  · rw [← handedCopies_kept, ← handedCopies_kept (route context arrival).effects]
    exact permuted.filterMap _
  · intro key
    have agree : ∀ next ∈ turns (Call.route context arrival).outcome.effects key, next = _ :=
      fun next turned => (Call.visit_spec (mem_turns turned)).2.1
    have writes : (turns (publishToLocalSubscribers other arrival (.ok subscriptions)).effects
        key).Perm (turns (route context arrival).effects key) := by
      rw [turns, turns, ← filterMap_kept rfl,
        ← filterMap_kept rfl (route context arrival).effects]
      exact permuted.filterMap _
    -- All of these numbers are the same, so that their order does not matter.
    have uniform := List.eq_replicate_of_mem agree
    have equal := List.perm_replicate.mp (writes.trans (.of_eq uniform))
    rw [cursorAfter, same, equal.trans uniform.symm]
    rfl

def fallback : List (Subscription × Surroundings) :=
  [({ subscriptionOf "a" with sharedGroup := some "g" }, { onNode 1 with registered := false }),
    ({ subscriptionOf "b" with sharedGroup := some "g" }, onNode 1)]

theorem publishToLocalSubscribers_agrees_fallback :
    (handedCopies (publishToLocalSubscribers singleNode (arriving fallback)
      (.ok fallback)).effects).Perm
        (handedCopies (route singleNode (arriving fallback)).effects) := by
  apply (publishToLocalSubscribers_agrees rfl rfl ?_ rfl).1
  intro item member
  rcases List.mem_cons.mp member with first | second
  · rw [first]
    rfl
  · rw [List.mem_singleton.mp second]
    rfl

end YedMQ.Router.Locally
