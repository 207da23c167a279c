import YedMQ.Router.Copies

/-! # The rotation among the members of a shared subscription

The calls of one router actor may overlap. They share the cursors, and each of them locks
these once for every group that it comes to. `RouteContext.cursors` is what a call finds
then, so that the calls in the order of their locking are a list in which each call finds
what the one before it has left.
-/

namespace YedMQ.Router

open Raft Semantics Topic Outcome

/-! ## Messages for the sessions of this node only -/

namespace Locally

variable (context : RouteContext) (arrival : Arrival)

def deliverNormalLocally : List Candidate → Outcome Unit
  | [] => return ()
  | item :: rest => do
    let _ ← routeToLocalSession item (copyFor arrival item)
    deliverNormalLocally rest

def tryMembersLocally : List Candidate → Outcome Bool
  | [] => return false
  | member :: rest => do
    if ← routeToLocalSession member (copyFor arrival member) then
      return true
    else
      tryMembersLocally rest

/-- The loop over the groups. Nobody is excluded here, and no dropped message is counted. -/
def deliverSharedLocally (candidates : List Candidate) :
    List SharedSubscriptionRouteKey → Outcome Unit
  | [] => return ()
  | key :: rest => do
    let sorted := sortMembers
      (candidates.filter fun candidate => routeKey arrival candidate = some key)
    let start := context.cursors key % sorted.length
    tell (.cursor key (start + 1))
    let _ ← tryMembersLocally arrival (fallbackOrder sorted start)
    deliverSharedLocally candidates rest

def publishToLocalSubscribers
    (answer : Except RouterActorError (List (Subscription × Surroundings))) : Outcome Unit :=
  if arrival.publish.isExpired arrival.now then
    return ()
  else
    match answer with
    | .error error => fail error
    | .ok subscriptions => do
      let candidates := number subscriptions
      deliverNormalLocally arrival
        (candidates.filter fun candidate => routeKey arrival candidate = none)
      deliverSharedLocally context arrival candidates (groupKeys context arrival candidates)

end Locally

def here (context : RouteContext) (candidate : Candidate) : Candidate :=
  { candidate with
    surroundings :=
      { candidate.surroundings with sessionActorMap := .ok (some context.currentNodeId) } }

def Arrival.anonymous (arrival : Arrival) : Arrival :=
  { arrival with sourceClientIdentifier := none }

/-- A call of the router actor that fans a message out. -/
inductive Call where
  | route (context : RouteContext) (arrival : Arrival)
  | publishToLocalSubscribers (context : RouteContext) (arrival : Arrival)
      (answer : Except RouterActorError (List (Subscription × Surroundings)))

namespace Call

def context : Call → RouteContext
  | route context _ => context
  | publishToLocalSubscribers context _ _ => context

def outcome : Call → Outcome Unit
  | route context arrival => Router.route context arrival
  | publishToLocalSubscribers context arrival answer =>
    Locally.publishToLocalSubscribers context arrival answer

def arrival : Call → Arrival
  | route _ arrival => arrival
  | publishToLocalSubscribers _ arrival _ => arrival.anonymous

def candidates : Call → List Candidate
  | route _ arrival =>
    if arrival.publish.isExpired arrival.now then []
    else
      match arrival.matching with
      | .error _ => []
      | .ok subscriptions => number subscriptions
  | publishToLocalSubscribers context arrival answer =>
    if arrival.publish.isExpired arrival.now then []
    else
      match answer with
      | .error _ => []
      | .ok subscriptions => (number subscriptions).map (here context)

variable (call : Call) (key : SharedSubscriptionRouteKey)

def members : List Candidate :=
  sortMembers (eligibleMembers call.arrival call.candidates key)

def memberIds : List String :=
  (call.members key).map fun member => member.subscription.clientIdentifier

def deliver (member : Candidate) : Outcome Bool :=
  deliverToSubscriber call.context call.arrival member

def copies : List Handed :=
  groupCopies call.arrival call.candidates key (handedCopies call.outcome.effects)

def receivers : List String :=
  (call.copies key).filterMap fun copy =>
    (call.candidates.find? fun candidate => candidate.number = copy.number).map
      fun candidate => candidate.subscription.clientIdentifier

def Visits : Prop :=
  ∃ next, .cursor key next ∈ call.outcome.effects

def Follows (first second : Call) : Prop :=
  .cursor key (second.context.cursors key) ∈ first.outcome.effects

end Call

/-! ## Both ways fan out alike -/

section Effects

open Locally

def Effect.isDrop : Effect → Bool
  | .messagesDropped => true
  | _ => false

def kept (effects : List Effect) : List Effect :=
  effects.filter fun effect => !effect.isDrop

variable {context : RouteContext} {arrival : Arrival}

namespace Outcome

variable {α β : Type} {outcome : Outcome α} {next : α → Outcome β}

theorem effects_bind {value : α} (passed : outcome.result = .ok value) :
    (outcome >>= next).effects = outcome.effects ++ (next value).effects := by
  have unfolded : outcome >>= next = outcome.bind next := rfl
  rw [unfolded, bind, passed]

theorem effects_bind_error {error : RouterActorError} (failed : outcome.result = .error error) :
    (outcome >>= next).effects = outcome.effects := by
  have unfolded : outcome >>= next = outcome.bind next := rfl
  rw [unfolded, bind, failed]

theorem effects_tell {effect : Effect} {next : Unit → Outcome β} :
    (tell effect >>= next).effects = effect :: (next ()).effects :=
  rfl

theorem mem_bind {effect : Effect} :
    effect ∈ (outcome >>= next).effects ↔ effect ∈ outcome.effects ∨
      ∃ value, outcome.result = .ok value ∧ effect ∈ (next value).effects := by
  have unfolded : outcome >>= next = outcome.bind next := rfl
  rw [unfolded, bind]
  cases outcome.result with
  | error | ok => simp

end Outcome

variable (candidate : Candidate)

theorem deliver_here :
    deliverToSubscriber context arrival.anonymous (here context candidate) =
      routeToLocalSession candidate (copyFor arrival candidate) := by
  exact if_neg (not_not_intro rfl)

theorem isExcluded_anonymous :
    isExcluded arrival.anonymous candidate = false :=
  Bool.and_false _

theorem deliverNormalLocally_eq (items : List Candidate) :
    deliverNormalLocally arrival items =
      deliverNormal context arrival.anonymous (items.map (here context)) := by
  induction items with
  | nil => rfl
  | cons item rest induction =>
    rw [deliverNormalLocally, List.map_cons, deliverNormal, isExcluded_anonymous,
      deliver_here, induction]
    rfl

variable (members : List Candidate)

theorem tryMembersLocally_eq :
    tryMembersLocally arrival members =
      tryMembers context arrival.anonymous (members.map (here context)) := by
  induction members with
  | nil => rfl
  | cons member rest induction =>
    rw [tryMembersLocally, List.map_cons, tryMembers, deliver_here, induction]

theorem eligibleMembers_here (candidates : List Candidate) (key : SharedSubscriptionRouteKey) :
    eligibleMembers arrival.anonymous (candidates.map (here context)) key =
      (candidates.filter fun candidate => routeKey arrival candidate = some key).map
        (here context) := by
  rw [eligibleMembers, List.filter_map]
  apply List.filter_eq_self.mpr
  intro candidate _
  rw [isExcluded_anonymous]
  rfl

variable (arrival) in
theorem tryMembersLocally_ok :
    ∃ delivered, (tryMembersLocally arrival members).result = .ok delivered := by
  induction members with
  | nil => exact ⟨false, rfl⟩
  | cons member rest induction =>
    rw [tryMembersLocally, routeToLocalSession]
    by_cases registered : member.surroundings.registered
    · rw [if_pos registered]
      exact ⟨true, rfl⟩
    · rw [if_neg registered]
      rcases induction with ⟨delivered, passed⟩
      exact ⟨delivered, passed⟩

variable {candidates : List Candidate} {keys : List SharedSubscriptionRouteKey}

theorem kept_deliverSharedLocally
    (present : ∀ key ∈ keys, ∃ candidate ∈ candidates, routeKey arrival candidate = some key) :
    kept (deliverSharedLocally context arrival candidates keys).effects =
      kept (deliverShared context arrival.anonymous (candidates.map (here context))
        keys).effects := by
  induction keys with
  | nil => rfl
  | cons key rest induction =>
    have later := induction fun other member => present other (List.mem_cons_of_mem key member)
    rcases present key List.mem_cons_self with ⟨candidate, member, keyed⟩
    have someone : (eligibleMembers arrival.anonymous (candidates.map (here context))
        key).isEmpty = false := by
      rw [eligibleMembers_here, List.isEmpty_eq_false_iff_exists_mem]
      exact ⟨_, List.mem_map_of_mem (List.mem_filter.mpr ⟨member, decide_eq_true_eq.mpr keyed⟩)⟩
    have sorted : sortMembers ((candidates.filter fun candidate =>
        routeKey arrival candidate = some key).map (here context)) =
          (sortMembers (candidates.filter fun candidate =>
            routeKey arrival candidate = some key)).map (here context) := by
      apply sortMembers_map
      intro candidate
      rfl
    rw [deliverSharedLocally, deliverShared]
    dsimp only
    rw [someone, if_neg Bool.false_ne_true, eligibleMembers_here, sorted, fallbackOrder_map,
      ← tryMembersLocally_eq, List.length_map, effects_tell, effects_tell]
    generalize fallbackOrder _ _ = order
    rcases tryMembersLocally_ok arrival order with ⟨delivered, passed⟩
    rw [effects_bind passed, effects_bind passed]
    simp only [kept, List.filter_cons, List.filter_append] at later ⊢
    rw [later]
    cases delivered <;> rfl

theorem kept_fanOut_here (candidates : List Candidate) :
    kept (do
        deliverNormalLocally arrival
          (candidates.filter fun candidate => routeKey arrival candidate = none)
        deliverSharedLocally context arrival candidates
          (groupKeys context arrival candidates) : Outcome Unit).effects =
      kept (fanOut context arrival.anonymous (candidates.map (here context))).effects := by
  have keys : groupKeys context arrival.anonymous (candidates.map (here context)) =
      groupKeys context arrival candidates := by
    rw [groupKeys, List.filterMap_map]
    rfl
  have normal : (candidates.map (here context)).filter
      (fun candidate => routeKey arrival.anonymous candidate = none) =
        (candidates.filter fun candidate => routeKey arrival candidate = none).map
          (here context) :=
    List.filter_map
  rw [fanOut, keys, normal, ← deliverNormalLocally_eq]
  cases ended : (deliverNormalLocally arrival (candidates.filter
      fun candidate => routeKey arrival candidate = none)).result with
  | error error =>
    rw [effects_bind_error ended, effects_bind_error ended]
  | ok value =>
    have shared : kept (deliverSharedLocally context arrival candidates
        (groupKeys context arrival candidates)).effects = kept _ :=
      kept_deliverSharedLocally fun _ present => mem_groupKeys.mp present
    rw [effects_bind ended, effects_bind ended, kept, kept, List.filter_append, List.filter_append]
    exact congrArg (_ ++ ·) shared

/-- A call does, apart from counting, what the fan-out of its subscriptions does. -/
theorem Call.kept_outcome (call : Call) :
    kept call.outcome.effects =
      kept (fanOut call.context call.arrival call.candidates).effects := by
  have nothing : ∀ (context : RouteContext) (arrival : Arrival),
      (fanOut context arrival []).effects = [] := by
    intro context arrival
    have nobody : groupKeys context arrival [] = [] :=
      List.Perm.eq_nil (context.order_perm [])
    rw [fanOut, nobody]
    rfl
  cases call with
  | route context arrival =>
    rw [outcome, Router.route, candidates]
    split
    · rw [nothing]
      rfl
    · cases arrival.matching with
      | error =>
        rw [nothing]
        rfl
      | ok subscriptions =>
        cases subscriptions with
        | nil =>
          have none : number [] = [] := rfl
          dsimp only
          rw [none, nothing]
          rfl
        | cons => rfl
  | publishToLocalSubscribers context arrival answer =>
    simp only [outcome, Locally.publishToLocalSubscribers, candidates]
    split
    · rw [nothing]
      rfl
    · cases answer with
      | error =>
        rw [nothing]
        rfl
      | ok subscriptions => exact kept_fanOut_here (number subscriptions)

theorem filterMap_kept {α : Type} {pick : Effect → Option α} (drops : pick .messagesDropped = none)
    (effects : List Effect) : (kept effects).filterMap pick = effects.filterMap pick := by
  rw [kept, List.filterMap_filter]
  apply List.filterMap_congr
  intro effect _
  cases effect with
  | messagesDropped => exact drops.symm
  | handed | cursor => rfl

theorem handedCopies_kept (effects : List Effect) :
    handedCopies (kept effects) = handedCopies effects :=
  filterMap_kept rfl effects

theorem mem_handedCopies {effects : List Effect} {copy : Handed} :
    copy ∈ handedCopies effects ↔ .handed copy ∈ effects := by
  rw [handedCopies, List.mem_filterMap]
  constructor
  · rintro ⟨effect, member, found⟩
    cases effect with
    | handed =>
      cases found
      exact member
    | cursor | messagesDropped => cases found
  · intro member
    exact ⟨_, member, rfl⟩

/-! ## What a visit to a group does -/

variable {key : SharedSubscriptionRouteKey} {next : Nat}

theorem cursor_notMem_deliver :
    .cursor key next ∉ (deliverToSubscriber context arrival candidate).effects := by
  intro turned
  rcases deliver_cases context arrival candidate with ⟨outcome, delivered, delivers⟩
  rw [delivered] at turned
  cases delivers with
  | reached => cases List.mem_singleton.mp turned
  | failed | expired | missed => cases turned

theorem cursor_notMem_tryMembers :
    .cursor key next ∉ (tryMembers context arrival members).effects := by
  induction members with
  | nil => exact List.not_mem_nil
  | cons member rest induction =>
    rw [tryMembers, mem_bind]
    rintro (turned | ⟨delivered, _, turned⟩)
    · exact cursor_notMem_deliver member turned
    · cases delivered with
      | true => cases turned
      | false => exact induction turned

theorem cursor_notMem_deliverNormal (items : List Candidate) :
    .cursor key next ∉ (deliverNormal context arrival items).effects := by
  induction items with
  | nil => exact List.not_mem_nil
  | cons item rest induction =>
    rw [deliverNormal]
    split
    · exact induction
    · rw [mem_bind]
      rintro (turned | ⟨_, _, turned⟩)
      · exact cursor_notMem_deliver item turned
      · exact induction turned

/-- The call that turns the cursor of a group also serves the group, and leaves the number
behind that of the member it has begun with. -/
theorem deliverShared_visits
    (visited : .cursor key next ∈ (deliverShared context arrival candidates keys).effects) :
    eligibleMembers arrival candidates key ≠ [] ∧
    next = context.cursors key % (sortMembers (eligibleMembers arrival candidates key)).length + 1 ∧
    ∀ copy, tryEach (attempt context arrival) (sharedGroup context arrival candidates key) =
        .done (some copy) →
      .handed copy ∈ (deliverShared context arrival candidates keys).effects := by
  induction keys with
  | nil => cases visited
  | cons first rest induction =>
    rw [deliverShared] at visited ⊢
    by_cases empty : (eligibleMembers arrival candidates first).isEmpty
    · rw [if_pos empty] at visited ⊢
      exact induction visited
    · rw [if_neg empty, effects_tell, List.mem_cons, mem_bind] at visited
      rw [if_neg empty]
      rcases visited with here | there | ⟨delivered, ended, there⟩
      · cases here
        refine ⟨fun none => empty (List.isEmpty_iff.mpr none), rfl, ?_⟩
        intro copy done
        have handed : handedCopies (tryMembers context arrival
            (sharedGroup context arrival candidates key)).effects = _ :=
          (tryMembers_yields _).2
        rw [done] at handed
        apply List.mem_cons_of_mem
        apply mem_bind.mpr
        left
        apply mem_handedCopies.mp
        exact handed ▸ List.mem_singleton_self copy
      · exact (cursor_notMem_tryMembers _ there).elim
      · have later : .cursor key next ∈
            (deliverShared context arrival candidates rest).effects := by
          cases delivered with
          | true => exact there
          | false =>
            rcases List.mem_cons.mp there with dropped | turned
            · cases dropped
            · exact turned
        rcases induction later with ⟨someone, turned, served⟩
        refine ⟨someone, turned, ?_⟩
        intro copy done
        apply List.mem_cons_of_mem
        apply mem_bind.mpr
        right
        refine ⟨delivered, ended, ?_⟩
        cases delivered with
        | true => exact served copy done
        | false => exact List.mem_cons_of_mem _ (served copy done)

end Effects

namespace Call

variable {call : Call} {key : SharedSubscriptionRouteKey}

theorem handedCopies_outcome (call : Call) :
    handedCopies call.outcome.effects = (serve (attempt call.context call.arrival)
      (servedGroups call.context call.arrival call.candidates)).1 := by
  rw [← handedCopies_kept, call.kept_outcome, handedCopies_kept]
  exact (fanOut_yields _).2

theorem mem_outcome {effect : Effect} (counts : effect.isDrop = false) :
    effect ∈ call.outcome.effects ↔
      effect ∈ (fanOut call.context call.arrival call.candidates).effects := by
  have same : effect ∈ kept call.outcome.effects ↔
      effect ∈ kept (fanOut call.context call.arrival call.candidates).effects := by
    rw [call.kept_outcome]
  rw [kept, kept, List.mem_filter, List.mem_filter, counts] at same
  simpa using same

theorem nodup_candidates (call : Call) : (call.candidates.map Candidate.number).Nodup := by
  cases call with
  | route =>
    rw [candidates]
    split
    · exact List.nodup_nil
    · split
      · exact List.nodup_nil
      · exact nodup_number _
  | publishToLocalSubscribers =>
    simp only [candidates]
    split
    · exact List.nodup_nil
    · split
      · exact List.nodup_nil
      · rw [List.map_map]
        exact nodup_number _

theorem sharedGroup_eq (call : Call) (key : SharedSubscriptionRouteKey) :
    sharedGroup call.context call.arrival call.candidates key = (call.members key).rotate
      (call.context.cursors key % (call.members key).length) :=
  fallbackOrder_eq_rotate _ _

variable {member : Candidate}

theorem mem_members :
    member ∈ call.members key ↔ member ∈ call.candidates ∧
      routeKey call.arrival member = some key ∧ isExcluded call.arrival member = false := by
  have group : member ∈ sharedGroup call.context call.arrival call.candidates key ↔ _ :=
    mem_sharedGroup
  rw [← group, sharedGroup_eq, List.mem_rotate]

theorem sharedGroup_mem (someone : call.members key ≠ []) :
    sharedGroup call.context call.arrival call.candidates key ∈
      servedGroups call.context call.arrival call.candidates := by
  rcases List.exists_mem_of_ne_nil _ someone with ⟨member, found⟩
  have keyed := mem_members.mp found
  apply List.mem_append_right
  exact List.mem_map_of_mem (mem_groupKeys.mpr ⟨member, keyed.1, keyed.2.1⟩)

theorem copies_eq (call : Call) (key : SharedSubscriptionRouteKey) :
    call.copies key = servedTo Candidate.number Handed.number
      (serve (attempt call.context call.arrival)
        (servedGroups call.context call.arrival call.candidates)).1
      (sharedGroup call.context call.arrival call.candidates key) := by
  rw [copies, handedCopies_outcome, groupCopies_eq call.nodup_candidates]

theorem visit_spec {next : Nat} (visited : .cursor key next ∈ call.outcome.effects) :
    call.members key ≠ [] ∧
    next = call.context.cursors key % (call.members key).length + 1 ∧
    ∀ copy, tryEach (attempt call.context call.arrival)
        (sharedGroup call.context call.arrival call.candidates key) = .done (some copy) →
      call.copies key = [copy] := by
  have fanned := (mem_outcome rfl).mp visited
  rw [fanOut, mem_bind] at fanned
  rcases fanned with normal | ⟨_, passed, shared⟩
  · exact (cursor_notMem_deliverNormal _ normal).elim
  · rcases deliverShared_visits shared with ⟨eligible, turned, served⟩
    have someone : call.members key ≠ [] := by
      intro nobody
      have short := congrArg List.length nobody
      rw [members, sortMembers, List.length_insertionSort] at short
      exact eligible (List.length_eq_zero_iff.mp short)
    refine ⟨someone, turned, ?_⟩
    intro copy done
    have handed : copy ∈ handedCopies call.outcome.effects := by
      apply mem_handedCopies.mpr
      apply (mem_outcome rfl).mpr
      rw [fanOut, mem_bind]
      exact .inr ⟨_, passed, served copy done⟩
    have own := @number_of_attempt call.context call.arrival
    have few := servedTo_sublist own (servedGroups_disjoint call.nodup_candidates)
      (sharedGroup_mem someone)
    rw [← copies_eq, done] at few
    have mine : copy ∈ call.copies key := by
      rw [copies_eq]
      apply List.mem_filter.mpr
      refine ⟨call.handedCopies_outcome ▸ handed, decide_eq_true_eq.mpr ?_⟩
      exact origin_of_firstValue own (firstValue_of_done done)
    rcases List.sublist_singleton.mp few with none | alone
    · rw [none] at mine
      cases mine
    · exact alone

/-- If everybody can be reached, the message goes to the member whose turn it is. -/
theorem receivers_eq (visits : call.Visits key)
    (reachable : ∀ member ∈ call.members key, Reachable call.context call.arrival member) :
    call.receivers key = ((call.memberIds key)[call.context.cursors key %
      (call.memberIds key).length]?).toList := by
  rcases visits with ⟨_, visited⟩
  rcases visit_spec visited with ⟨someone, _, served⟩
  have below := Nat.mod_lt (call.context.cursors key) (List.length_pos_iff.mpr someone)
  have first := List.getElem_mem below
  rcases attempt_of_reachable (reachable _ first) with ⟨_, handed, own⟩
  have alone := served _ (by
    rw [sharedGroup_eq, List.rotate_eq_drop_append_take below.le, List.drop_eq_getElem_cons below,
      List.cons_append, tryEach, handed])
  rw [receivers, alone, memberIds, List.length_map, List.getElem?_map,
    List.getElem?_eq_getElem below]
  have named := own.number
  generalize (call.members key)[call.context.cursors key % _] = member at first named
  have present := (mem_members.mp first).1
  have found : call.candidates.find? (fun candidate => candidate.number = member.number) =
      some member := by
    cases known : call.candidates.find? fun candidate => candidate.number = member.number with
    | none => exact absurd (List.find?_eq_none.mp known member present) (by simp)
    | some =>
      have same := List.find?_some known
      rw [eq_of_number call.nodup_candidates (List.mem_of_find?_eq_some known) present
        (decide_eq_true_eq.mp same)]
  simp [named, found]

/-- The members are tried in an order that depends on who they are only. -/
theorem memberIds_of_perm {ids : List String} (same : (call.memberIds key).Perm ids) :
    call.memberIds key = ids.insertionSort (· ≤ ·) := by
  have sorted : call.memberIds key = ((eligibleMembers call.arrival call.candidates key).map
      fun member => member.subscription.clientIdentifier).insertionSort (· ≤ ·) := by
    apply List.map_insertionSort
    intro left _ right _
    rfl
  apply List.Perm.eq_of_pairwise' _ (List.pairwise_insertionSort _ ids)
    (same.trans (List.perm_insertionSort _ ids).symm)
  rw [sorted]
  exact List.pairwise_insertionSort _ _

theorem receivers_of_chain {sorted : List String} {calls : List Call} {cursor : Nat}
    (begins : ∀ first ∈ calls.head?, first.context.cursors key = cursor)
    (visits : ∀ call ∈ calls, call.Visits key) (consecutive : calls.IsChain (Follows key))
    (same : ∀ call ∈ calls, call.memberIds key = sorted)
    (reachable : ∀ call ∈ calls, ∀ member ∈ call.members key,
      Reachable call.context call.arrival member) :
    (calls.flatMap fun call => call.receivers key) =
      (List.range calls.length).filterMap fun i => sorted[(cursor + i) % sorted.length]? := by
  induction calls generalizing cursor with
  | nil => rfl
  | cons first rest induction =>
    rcases List.isChain_cons.mp consecutive with ⟨follows, later⟩
    have here := receivers_eq (visits first List.mem_cons_self) (reachable first List.mem_cons_self)
    have ids := same first List.mem_cons_self
    rw [ids, begins first rfl] at here
    have turned : ∀ second ∈ rest.head?,
        second.context.cursors key = cursor % sorted.length + 1 := by
      intro second next
      rw [(visit_spec (follows second next)).2.1, begins first rfl, ← ids, memberIds,
        List.length_map]
    have others := induction turned
      (fun call member => visits call (List.mem_cons_of_mem first member)) later
      (fun call member => same call (List.mem_cons_of_mem first member))
      fun call member => reachable call (List.mem_cons_of_mem first member)
    rw [List.flatMap_cons, here, others, List.length_cons, filterMap_range_succ]
    apply congrArg (_ ++ (List.range rest.length).filterMap ·)
    funext i
    rw [Nat.add_assoc, Nat.mod_add_mod, Nat.add_comm 1 i]

/-- A delivery that counts as made hands over the copy, unless the message has expired
meanwhile. -/
theorem handed_of_delivered (delivered : (call.deliver member).result = .ok true) :
    (∃ way, handedCopies (call.deliver member).effects =
      [⟨member.number, way, copyFor call.arrival member⟩]) ∨
    handedCopies (call.deliver member).effects = [] ∧ member.surroundings.enqueued = .ok false := by
  rcases deliver_cases call.context call.arrival member with ⟨outcome, ends, delivers⟩
  rw [deliver, ends] at delivered ⊢
  cases delivers with
  | @reached copy _ own =>
    left
    refine ⟨copy.way, ?_⟩
    rw [copyFor_eq, ← own.publish, ← own.number]
    rfl
  | failed | missed => cases delivered
  | expired _ _ expires =>
    right
    refine ⟨rfl, ?_⟩
    rw [Router.expires, Bool.and_eq_true] at expires
    rcases expires with ⟨_, early⟩
    split at early
    · assumption
    · cases early

/-- If no delivery fails, the message goes to one member to whom a delivery is made, if there
is one. -/
theorem copies_of_passes (passes : ∀ candidate ∈ call.candidates, ∀ error,
      (call.deliver candidate).result ≠ .error error)
    (someone : ∃ member ∈ call.members key, (call.deliver member).result = .ok true) :
    ∃ chosen ∈ call.members key, (call.deliver chosen).result = .ok true ∧
      call.copies key = handedCopies (call.deliver chosen).effects := by
  rcases someone with ⟨member, found, delivered⟩
  have ends : ∀ candidate, (call.deliver candidate).Yields
      (attempt call.context call.arrival candidate).value?.toList
      (attempt call.context call.arrival candidate).result := deliver_yields
  have unfailing : ∀ group ∈ servedGroups call.context call.arrival call.candidates,
      ∀ error, tryEach (attempt call.context call.arrival) group ≠ .failed error := by
    intro group served error failed
    have found : tryEach (attempt call.context call.arrival) group ≠ .missed := by
      rw [failed]
      intro same
      cases same
    rcases exists_of_tryEach found with ⟨item, itemMember, same⟩
    apply passes item (mem_of_servedGroups served itemMember).1 error
    rw [(ends item).1, same, failed]
    rfl
  have grouped : member ∈ sharedGroup call.context call.arrival call.candidates key := by
    rw [sharedGroup_eq]
    exact List.mem_rotate.mpr found
  have met : tryEach (attempt call.context call.arrival)
      (sharedGroup call.context call.arrival call.candidates key) ≠ .missed := by
    intro missed
    rw [(ends member).1, tryEach_eq_missed missed member grouped] at delivered
    cases delivered
  rcases exists_of_tryEach met with ⟨chosen, chosenMember, same⟩
  rw [sharedGroup_eq, List.mem_rotate] at chosenMember
  have served := servedTo_of_passes number_of_attempt (servedGroups_disjoint call.nodup_candidates)
    unfailing (sharedGroup_mem (List.ne_nil_of_mem found))
  rw [← copies_eq, ← same, ← (ends chosen).2] at served
  refine ⟨chosen, chosenMember, ?_, served⟩
  rw [(ends chosen).1]
  cases tried : attempt call.context call.arrival chosen with
  | failed error =>
    exact (unfailing _ (sharedGroup_mem (List.ne_nil_of_mem found)) error
      (same.symm.trans tried)).elim
  | missed => exact (met (same.symm.trans tried)).elim
  | done => rfl

/-- If the members of a group stay the same and can all be reached, as many calls as there
are members, one after the other, reach each of them once. However the members change
between the calls, no index lies outside the members, and if no delivery fails, the
message goes to one member to whom a delivery is made, if there is one; nothing is handed
over for that member only if the message expires before it is put on its route. -/
theorem group_takes_turns (key : SharedSubscriptionRouteKey) :
    (∀ (ids : List String) (calls : List Call), (∀ call ∈ calls, call.Visits key) →
      calls.IsChain (Follows key) → (∀ call ∈ calls, (call.memberIds key).Perm ids) →
      (∀ call ∈ calls, ∀ member ∈ call.members key, Reachable call.context call.arrival member) →
      calls.length = ids.length → (calls.flatMap fun call => call.receivers key).Perm ids) ∧
    ∀ call : Call, (∀ next, .cursor key next ∈ call.outcome.effects →
        next = call.context.cursors key % (call.members key).length + 1 ∧
        ∀ i, (call.context.cursors key % (call.members key).length + i) %
          (call.members key).length < (call.members key).length) ∧
      ((∀ candidate ∈ call.candidates, ∀ error, (call.deliver candidate).result ≠ .error error) →
        (∃ member ∈ call.members key, (call.deliver member).result = .ok true) →
        ∃ chosen ∈ call.members key, (call.deliver chosen).result = .ok true ∧
          ((∃ way, call.copies key = [⟨chosen.number, way, copyFor call.arrival chosen⟩]) ∨
            call.copies key = [] ∧ chosen.surroundings.enqueued = .ok false)) := by
  constructor
  · intro ids calls visits consecutive same reachable count
    cases calls with
    | nil =>
      rw [List.length_eq_zero_iff.mp count.symm]
      exact List.Perm.nil
    | cons first rest =>
      have begins : ∀ call ∈ (first :: rest).head?,
          call.context.cursors key = first.context.cursors key := by
        intro call head
        cases head
        rfl
      rw [receivers_of_chain begins visits consecutive
        (fun call member => memberIds_of_perm (same call member)) reachable, count,
        ← List.length_insertionSort (· ≤ ·) ids, filterMap_eq_rotate]
      exact (List.rotate_perm _ _).trans (List.perm_insertionSort _ ids)
  · intro call
    constructor
    · intro next visited
      rcases visit_spec visited with ⟨someone, turned, _⟩
      exact ⟨turned, fun i => Nat.mod_lt _ (List.length_pos_iff.mpr someone)⟩
    · intro passes someone
      rcases copies_of_passes passes someone with ⟨chosen, member, delivered, copies⟩
      refine ⟨chosen, member, delivered, ?_⟩
      rw [copies]
      exact handed_of_delivered delivered

/-! ### Two members -/

deriving instance DecidableEq for Effect

def pair : SharedSubscriptionRouteKey :=
  ⟨"tenant", "g", "t"⟩

def pairTurn (cursor : Nat) : Call :=
  .route { singleNode with cursors := fun _ => cursor }
    (arriving [({ subscriptionOf "b" with sharedGroup := some "g" }, onNode 1),
      ({ subscriptionOf "a" with sharedGroup := some "g" }, onNode 1)])

theorem reachable_pairTurn (cursor : Nat) : ∀ member ∈ (pairTurn cursor).members pair,
    Reachable (pairTurn cursor).context (pairTurn cursor).arrival member := by
  intro member found
  have present := (mem_members.mp found).1
  rcases List.mem_cons.mp present with first | later
  · subst first
    exact ⟨1, rfl, fun _ => rfl, fun remote => (remote rfl).elim⟩
  · rw [List.mem_singleton.mp later]
    exact ⟨1, rfl, fun _ => rfl, fun remote => (remote rfl).elim⟩

theorem group_takes_turns_pair :
    ([pairTurn 3, pairTurn 2].flatMap fun call => call.receivers pair).Perm ["a", "b"] := by
  apply (group_takes_turns pair).1
  · rw [List.forall_mem_cons, List.forall_mem_singleton]
    exact ⟨⟨2, by decide +kernel⟩, ⟨1, by decide +kernel⟩⟩
  · apply List.IsChain.cons_cons _ (List.IsChain.singleton _)
    rw [Follows]
    decide +kernel
  · rw [List.forall_mem_cons, List.forall_mem_singleton]
    constructor <;> decide +kernel
  · rw [List.forall_mem_cons, List.forall_mem_singleton]
    exact ⟨reachable_pairTurn 3, reachable_pairTurn 2⟩
  · rfl

/-! ### A message that expires on its way -/

def expiringTurn : Call :=
  .route singleNode
    (arriving [({ subscriptionOf "a" with sharedGroup := some "g" },
        { onNode 2 with enqueued := .ok false }),
      ({ subscriptionOf "b" with sharedGroup := some "g" }, onNode 1)])

/-- The message expires before it is put on the route to the first member. Nothing fails,
and the second member is not tried although it can be reached. -/
theorem expired_route_ends_group :
    (∀ candidate ∈ expiringTurn.candidates, ∀ error,
        (expiringTurn.deliver candidate).result ≠ .error error) ∧
      (∃ member ∈ expiringTurn.members pair,
        Reachable expiringTurn.context expiringTurn.arrival member) ∧
      expiringTurn.copies pair = [] := by
  refine ⟨?_, ?_, by decide +kernel⟩
  · intro candidate member error failed
    rcases List.mem_cons.mp member with first | later
    · rw [first] at failed
      cases failed
    · rw [List.mem_singleton.mp later] at failed
      cases failed
  · refine ⟨⟨1, { subscriptionOf "b" with sharedGroup := some "g" }, onNode 1⟩, ?_, 1, rfl,
      fun _ => rfl, fun remote => (remote rfl).elim⟩
    exact mem_members.mpr ⟨List.mem_cons_of_mem _ List.mem_cons_self, rfl, rfl⟩

end Call

end YedMQ.Router
