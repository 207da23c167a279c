import YedMQ.Router.Serving

/-! # The copies that a message makes

Every normal subscription and every group of a shared one should be handed one copy if its
session, or one of its members, can be reached. An error of one delivery ends the routing,
so that what comes after it is handed nothing.
-/

namespace YedMQ.Router

open Raft Semantics Topic

section Copies

variable {context : RouteContext} {arrival : Arrival}
variable (candidate : Candidate)

def copiesOf (copies : List Handed) : List Handed :=
  copies.filter fun copy => copy.number = candidate.number

variable (arrival) in
def groupCopies (candidates : List Candidate) (key : SharedSubscriptionRouteKey)
    (copies : List Handed) : List Handed :=
  copies.filter fun copy => copy.number ∈
    (candidates.filter fun candidate => routeKey arrival candidate = some key).map Candidate.number

variable (context arrival) in
/-- The copies that the groups of subscriptions are handed in turn. -/
abbrev servedCopies (candidates : List Candidate) : List Handed :=
  (serve (attempt context arrival) (servedGroups context arrival candidates)).1

variable (context arrival) in
def withoutFailure : Candidate :=
  if fails context arrival candidate then
    { candidate with
      surroundings := { candidate.surroundings with sessionActorMap := .ok none } }
  else
    candidate

variable (context arrival) in
def Deliverable : Prop :=
  isExcluded arrival candidate = false ∧ Reachable context arrival candidate

variable (context arrival) in
/-- One of those who are meant and to whom a delivery can be made is handed the only copy,
if there is one. -/
def OneCopy (Meant : Candidate → Prop) (copies : List Handed) : Prop :=
  ((∃ member, Meant member ∧ Deliverable context arrival member) →
    ∃ member, Meant member ∧ Deliverable context arrival member ∧
      ∃ copy, copies = [copy] ∧ IsCopyFor context arrival member copy) ∧
  ((¬ ∃ member, Meant member ∧ Deliverable context arrival member) → copies = [])

variable (context arrival) in
/-- Every subscriber that can be reached has its copy. -/
structure Complete (candidates : List Candidate) (copies : List Handed) : Prop where
  normal : ∀ candidate ∈ candidates, routeKey arrival candidate = none →
    OneCopy context arrival (· = candidate) (copiesOf candidate copies)
  shared : ∀ key, OneCopy context arrival
    (fun member => member ∈ candidates ∧ routeKey arrival member = some key)
    (groupCopies arrival candidates key copies)
  failures : copies = handedCopies
    (fanOut context arrival (candidates.map (withoutFailure context arrival))).effects

variable (context arrival) in
/-- In the order of the routing no failure comes before a subscription that can be reached,
and no member of a group for whom the message has expired before such a member of the same
group. Whoever is not tried in a group any more is in nobody's way. -/
def Unhindered (candidates : List Candidate) : Prop :=
  ∀ before group after, servedGroups context arrival candidates = before ++ group :: after →
    ∀ ahead item rest, group = ahead ++ item :: rest →
      (∀ other ∈ ahead, ¬ Reachable context arrival other ∧ fails context arrival other = false ∧
        expires context arrival other = false) →
      (fails context arrival item = true →
        ∀ other ∈ rest ++ after.flatten, ¬ Reachable context arrival other) ∧
      (expires context arrival item = true →
        ∀ other ∈ rest, ¬ Reachable context arrival other)

variable {candidate : Candidate}

theorem copy_of_attempt {copy : Handed}
    (done : attempt context arrival candidate = .done (some copy)) :
    Reachable context arrival candidate ∧ IsCopyFor context arrival candidate copy := by
  have reachable : Reachable context arrival candidate := by
    by_contra unreachable
    have nothing := attempt_of_unreachable unreachable
    rw [done] at nothing
    cases nothing
  rcases attempt_of_reachable reachable with ⟨_, handed, own⟩
  rw [done] at handed
  cases handed
  exact ⟨reachable, own⟩

theorem number_of_attempt (item : Candidate) (copy : Handed)
    (done : attempt context arrival item = .done (some copy)) : copy.number = item.number :=
  (copy_of_attempt done).2.number

theorem value?_eq_none_iff :
    (attempt context arrival candidate).value? = none ↔ ¬ Reachable context arrival candidate := by
  constructor
  · intro nothing reachable
    rcases attempt_of_reachable reachable with ⟨_, handed, _⟩
    rw [handed] at nothing
    cases nothing
  · exact attempt_of_unreachable

variable {group : List Candidate}

theorem firstValue_eq_none :
    firstValue (attempt context arrival) group = none ↔
      ∀ candidate ∈ group, ¬ Reachable context arrival candidate := by
  rw [firstValue_eq_none_iff]
  exact forall₂_congr fun _ _ => value?_eq_none_iff

theorem attempt_missed_iff : attempt context arrival candidate = .missed ↔
    ¬ Reachable context arrival candidate ∧ fails context arrival candidate = false ∧
      expires context arrival candidate = false := by
  rw [← value?_eq_none_iff, ← Bool.not_eq_true, ← Bool.not_eq_true, ← attempt_failed_iff,
    ← attempt_expired_iff]
  cases attempt context arrival candidate with
  | failed | missed => simp [Trial.value?]
  | done value => cases value <;> simp [Trial.value?]

theorem unobstructed_iff {candidates : List Candidate} :
    Unobstructed (attempt context arrival) (servedGroups context arrival candidates) ↔
      Unhindered context arrival candidates := by
  constructor
  · intro unobstructed before group after split ahead item rest parts passed
    have here := unobstructed before group after split
    have missed : ∀ other ∈ ahead, attempt context arrival other = .missed :=
      fun other member => attempt_missed_iff.mpr (passed other member)
    have later : ∀ other ∈ rest, other ∈ group := by
      intro other member
      rw [parts]
      exact List.mem_append_right _ (List.mem_cons_of_mem _ member)
    constructor
    · intro fails other member
      rcases attempt_failed_iff.mpr fails with ⟨error, failed⟩
      have nobody := here.1
        ⟨error, (tryEach_eq_iff (.failed error) nofun).mpr
          ⟨ahead, item, rest, parts, missed, failed⟩⟩
      rcases List.mem_append.mp member with own | afterwards
      · exact firstValue_eq_none.mp (nobody group List.mem_cons_self) other (later other own)
      · rcases List.mem_flatten.mp afterwards with ⟨others, among, member⟩
        exact firstValue_eq_none.mp (nobody others (List.mem_cons_of_mem _ among)) other member
    · intro expires other member
      have nobody := here.2 ((tryEach_eq_iff (.done none) nofun).mpr
        ⟨ahead, item, rest, parts, missed, attempt_expired_iff.mpr expires⟩)
      exact firstValue_eq_none.mp nobody other (later other member)
  · intro unhindered before group after split
    -- In a group whose first attempt that does not miss shows nothing only the rest counts.
    have nobody : ∀ ahead item rest, group = ahead ++ item :: rest →
        (∀ other ∈ ahead, attempt context arrival other = .missed) →
        (attempt context arrival item).value? = none →
        (∀ other ∈ rest, ¬ Reachable context arrival other) →
        firstValue (attempt context arrival) group = none := by
      intro ahead item rest parts missed nothing later
      rw [firstValue_eq_none, parts, List.forall_mem_append, List.forall_mem_cons]
      exact ⟨fun other member => (attempt_missed_iff.mp (missed other member)).1,
        value?_eq_none_iff.mp nothing, later⟩
    constructor
    · rintro ⟨error, failed⟩
      rcases (tryEach_eq_iff (.failed error) nofun).mp failed with
        ⟨ahead, item, rest, parts, missed, ends⟩
      have passed := fun other member => attempt_missed_iff.mp (missed other member)
      have hindered := (unhindered before group after split ahead item rest parts passed).1
        (attempt_failed_iff.mp ⟨error, ends⟩)
      rw [List.forall_mem_cons]
      constructor
      · apply nobody ahead item rest parts missed (by rw [ends]; rfl)
        exact fun other member => hindered other (List.mem_append_left _ member)
      · intro other among
        apply firstValue_eq_none.mpr
        intro one member
        exact hindered one (List.mem_append_right _ (List.mem_flatten.mpr ⟨other, among, member⟩))
    · intro expired
      rcases (tryEach_eq_iff (.done none) nofun).mp expired with
        ⟨ahead, item, rest, parts, missed, ends⟩
      apply nobody ahead item rest parts missed (by rw [ends]; rfl)
      exact (unhindered before group after split ahead item rest parts fun other member =>
        attempt_missed_iff.mp (missed other member)).2 (attempt_expired_iff.mp ends)

section Groups

variable {candidates : List Candidate}

theorem mem_normalGroups : group ∈ normalGroups arrival
        (candidates.filter fun candidate => routeKey arrival candidate = none) ↔
      ∃ candidate ∈ candidates, routeKey arrival candidate = none ∧
        isExcluded arrival candidate = false ∧ [candidate] = group := by
  rw [normalGroups, List.mem_map]
  constructor
  · rintro ⟨candidate, member, alone⟩
    rcases List.mem_filter.mp member with ⟨normal, included⟩
    rcases List.mem_filter.mp normal with ⟨candidateMember, unkeyed⟩
    exact ⟨candidate, candidateMember, decide_eq_true_eq.mp unkeyed,
      (Bool.not_eq_true' _).mp included, alone⟩
  · rintro ⟨candidate, member, unkeyed, included, alone⟩
    refine ⟨candidate, List.mem_filter.mpr ⟨List.mem_filter.mpr ⟨member, ?_⟩, ?_⟩, alone⟩
    · exact decide_eq_true_eq.mpr unkeyed
    · exact (Bool.not_eq_true' _).mpr included

variable {candidate : Candidate}

theorem mem_of_servedGroups (served : group ∈ servedGroups context arrival candidates)
    (member : candidate ∈ group) :
    candidate ∈ candidates ∧ isExcluded arrival candidate = false := by
  rcases List.mem_append.mp served with normal | shared
  · rcases mem_normalGroups.mp normal with ⟨_, itemMember, _, included, alone⟩
    subst alone
    rw [List.mem_singleton.mp member]
    exact ⟨itemMember, included⟩
  · rcases List.mem_map.mp shared with ⟨_, _, group⟩
    subst group
    have found := mem_sharedGroup.mp member
    exact ⟨found.1, found.2.2⟩

theorem exists_of_mem_copies {copy : Handed} (handed : copy ∈
      (servedCopies context arrival candidates)) :
    ∃ candidate ∈ candidates, isExcluded arrival candidate = false ∧
      attempt context arrival candidate = .done (some copy) := by
  rcases exists_of_mem_serve handed with ⟨_, served, done⟩
  rcases exists_of_firstValue (firstValue_of_done done) with ⟨candidate, member, own⟩
  have found := mem_of_servedGroups served member
  exact ⟨candidate, found.1, found.2, own⟩

theorem copiesOf_eq (candidate : Candidate) (copies : List Handed) :
    copiesOf candidate copies = servedTo Candidate.number Handed.number copies [candidate] := by
  apply List.filter_congr
  simp

theorem mem_singleton_iff (included : isExcluded arrival candidate = false) (item : Candidate) :
    item ∈ [candidate] ↔ item = candidate ∧ isExcluded arrival item = false := by
  rw [List.mem_singleton, iff_self_and]
  intro same
  rw [same]
  exact included

theorem oneCopy_firstValue (group : List Candidate) {Meant : Candidate → Prop}
    (members : ∀ item, item ∈ group ↔ Meant item ∧ isExcluded arrival item = false) :
    OneCopy context arrival Meant (firstValue (attempt context arrival) group).toList := by
  constructor
  · rintro ⟨member, meant, included, reachable⟩
    have someone : firstValue (attempt context arrival) group ≠ none := by
      intro nobody
      exact firstValue_eq_none.mp nobody member ((members member).mpr ⟨meant, included⟩) reachable
    rcases Option.ne_none_iff_exists'.mp someone with ⟨copy, first⟩
    rcases exists_of_firstValue first with ⟨chosen, chosenMember, done⟩
    have found := (members chosen).mp chosenMember
    have own := copy_of_attempt done
    rw [first]
    exact ⟨chosen, found.1, ⟨found.2, own.1⟩, copy, rfl, own.2⟩
  · intro nobody
    rw [firstValue_eq_none.mpr]
    · rfl
    · intro item member reachable
      have found := (members item).mp member
      exact nobody ⟨item, found.1, found.2, reachable⟩

variable (numbered : (candidates.map Candidate.number).Nodup)

include numbered

theorem eq_of_number {left right : Candidate} (first : left ∈ candidates)
    (second : right ∈ candidates) (same : left.number = right.number) : left = right :=
  List.inj_on_of_nodup_map numbered first second same

theorem copiesOf_excluded (member : candidate ∈ candidates)
    (excluded : isExcluded arrival candidate = true) :
    copiesOf candidate (servedCopies context arrival candidates) = [] := by
  apply List.filter_eq_nil_iff.mpr
  intro copy handed
  rw [decide_eq_true_eq]
  intro same
  rcases exists_of_mem_copies handed with ⟨_, otherMember, included, done⟩
  have one := eq_of_number numbered otherMember member
    ((copy_of_attempt done).2.number.symm.trans same)
  rw [one, excluded] at included
  cases included

theorem groupCopies_eq (key : SharedSubscriptionRouteKey) : groupCopies arrival candidates key
        (servedCopies context arrival candidates) =
      servedTo Candidate.number Handed.number (servedCopies context arrival candidates)
          (sharedGroup context arrival candidates key) := by
  apply List.filter_congr
  intro copy handed
  rw [decide_eq_decide]
  constructor
  · intro named
    rcases List.mem_map.mp named with ⟨member, keyed, alike⟩
    rcases List.mem_filter.mp keyed with ⟨memberMember, key⟩
    rcases exists_of_mem_copies handed with ⟨_, otherMember, included, done⟩
    have one := eq_of_number numbered otherMember memberMember
      ((copy_of_attempt done).2.number.symm.trans alike.symm)
    rw [one] at included
    apply List.mem_map.mpr
    exact ⟨member, mem_sharedGroup.mpr ⟨memberMember, decide_eq_true_eq.mp key, included⟩, alike⟩
  · intro named
    rcases List.mem_map.mp named with ⟨member, shared, alike⟩
    have found := mem_sharedGroup.mp shared
    apply List.mem_map.mpr
    exact ⟨member, List.mem_filter.mpr ⟨found.1, decide_eq_true_eq.mpr found.2.1⟩, alike⟩

theorem servedTo_group (served : group ∈ servedGroups context arrival candidates) {copy : Handed}
    (alone : servedTo Candidate.number Handed.number
      (servedCopies context arrival candidates) group = [copy]) :
    firstValue (attempt context arrival) group = some copy := by
  have handed : copy ∈ servedTo Candidate.number Handed.number
      (servedCopies context arrival candidates) group := by
    rw [alone]
    exact List.mem_cons_self
  rcases List.mem_filter.mp handed with ⟨member, named⟩
  apply firstValue_of_done
  exact tryEach_of_mem_serve number_of_attempt (servedGroups_disjoint numbered) served member
    (decide_eq_true_eq.mp named)

theorem OneCopy.servedTo {Meant : Candidate → Prop}
    (members : ∀ item, item ∈ group ↔ Meant item ∧ isExcluded arrival item = false)
    (served : group ∈ servedGroups context arrival candidates)
    (one : OneCopy context arrival Meant (servedTo Candidate.number Handed.number
      (servedCopies context arrival candidates) group)) :
    servedTo Candidate.number Handed.number (servedCopies context arrival candidates) group =
      (firstValue (attempt context arrival) group).toList := by
  by_cases someone : ∃ member, Meant member ∧ Deliverable context arrival member
  · rcases one.1 someone with ⟨_, _, _, copy, alone, _⟩
    rw [alone, servedTo_group numbered served alone]
    rfl
  · rw [one.2 someone, firstValue_eq_none.mpr]
    · rfl
    · intro item member reachable
      have found := (members item).mp member
      exact someone ⟨item, found.1, found.2, reachable⟩

theorem Complete.unobstructed (complete : Complete context arrival candidates
      (servedCopies context arrival candidates)) :
    Unobstructed (attempt context arrival) (servedGroups context arrival candidates) := by
  apply (servedTo_iff number_of_attempt (servedGroups_disjoint numbered)).mp
  intro group served
  rcases List.mem_append.mp served with normal | shared
  · rcases mem_normalGroups.mp normal with ⟨item, member, unkeyed, included, alone⟩
    subst alone
    apply OneCopy.servedTo numbered (mem_singleton_iff included) served
    rw [← copiesOf_eq]
    exact complete.normal item member unkeyed
  · rcases List.mem_map.mp shared with ⟨key, _, same⟩
    subst same
    apply OneCopy.servedTo numbered (fun _ => mem_sharedGroup.trans and_assoc.symm) served
    rw [← groupCopies_eq numbered]
    exact complete.shared key

end Groups

/-! ## Failures -/

section Failures

variable (candidate : Candidate)

theorem routeKey_withoutFailure :
    routeKey arrival (withoutFailure context arrival candidate) = routeKey arrival candidate := by
  rw [withoutFailure]
  split <;> rfl

theorem isExcluded_withoutFailure :
    isExcluded arrival (withoutFailure context arrival candidate) =
      isExcluded arrival candidate := by
  rw [withoutFailure]
  split <;> rfl

theorem clientIdentifier_withoutFailure :
    (withoutFailure context arrival candidate).subscription.clientIdentifier =
      candidate.subscription.clientIdentifier := by
  rw [withoutFailure]
  split <;> rfl

theorem attempt_withoutFailure :
    attempt context arrival (withoutFailure context arrival candidate) =
      (attempt context arrival candidate).pass := by
  rw [withoutFailure]
  split
  · rename_i fails
    rcases attempt_failed_iff.mpr fails with ⟨error, failed⟩
    rw [failed]
    rfl
  · rename_i passes
    cases tried : attempt context arrival candidate with
    | failed error => exact absurd (attempt_failed_iff.mp ⟨error, tried⟩) passes
    | missed | done => rfl

theorem fallbackOrder_map (change : Candidate → Candidate) (sorted : List Candidate) (start : Nat) :
    fallbackOrder (sorted.map change) start = (fallbackOrder sorted start).map change := by
  rw [fallbackOrder, fallbackOrder, List.map_filterMap, List.length_map]
  apply congrArg fun pick => (List.range sorted.length).filterMap pick
  funext i
  exact List.getElem?_map

theorem sortMembers_map {change : Candidate → Candidate}
    (same : ∀ candidate, (change candidate).subscription.clientIdentifier =
      candidate.subscription.clientIdentifier) (members : List Candidate) :
    sortMembers (members.map change) = (sortMembers members).map change := by
  apply Eq.symm
  apply List.map_insertionSort
  intro left _ right _
  rw [same, same]

theorem filter_withoutFailure (keep : Candidate → Bool)
    (same : ∀ candidate, keep (withoutFailure context arrival candidate) = keep candidate)
    (candidates : List Candidate) :
    (candidates.map (withoutFailure context arrival)).filter keep =
      (candidates.filter keep).map (withoutFailure context arrival) := by
  rw [List.filter_map]
  exact congrArg (fun chosen => (candidates.filter chosen).map
    (withoutFailure context arrival)) (funext same)

theorem sharedGroup_map (candidates : List Candidate) (key : SharedSubscriptionRouteKey) :
    sharedGroup context arrival (candidates.map (withoutFailure context arrival)) key =
      (sharedGroup context arrival candidates key).map (withoutFailure context arrival) := by
  have eligible : eligibleMembers arrival (candidates.map (withoutFailure context arrival)) key =
        (eligibleMembers arrival candidates key).map (withoutFailure context arrival) := by
    rw [eligibleMembers, filter_withoutFailure, filter_withoutFailure]
    · rfl
    · intro candidate
      rw [isExcluded_withoutFailure]
    · intro candidate
      rw [routeKey_withoutFailure]
  rw [sharedGroup, eligible, sortMembers_map clientIdentifier_withoutFailure, List.length_map,
    fallbackOrder_map]
  rfl

theorem servedGroups_map (candidates : List Candidate) :
    servedGroups context arrival (candidates.map (withoutFailure context arrival)) =
      (servedGroups context arrival candidates).map fun group =>
        group.map (withoutFailure context arrival) := by
  have keys : groupKeys context arrival (candidates.map (withoutFailure context arrival)) =
      groupKeys context arrival candidates := by
    have same : (candidates.map (withoutFailure context arrival)).filterMap
        (routeKey arrival) = candidates.filterMap (routeKey arrival) := by
      rw [List.filterMap_map]
      exact congrArg (candidates.filterMap ·) (funext routeKey_withoutFailure)
    rw [groupKeys, same]
    rfl
  rw [servedGroups, keys, servedGroups, List.map_append, List.map_map]
  congr 1
  · rw [normalGroups, filter_withoutFailure, filter_withoutFailure, normalGroups, List.map_map,
      List.map_map]
    · rfl
    · intro candidate
      rw [isExcluded_withoutFailure]
    · intro candidate
      rw [routeKey_withoutFailure]
  · exact congrArg ((groupKeys context arrival candidates).map ·)
      (funext fun key => sharedGroup_map candidates key)

theorem fanOut_withoutFailure {candidates : List Candidate}
    (unobstructed : Unobstructed (attempt context arrival)
      (servedGroups context arrival candidates)) :
    handedCopies (fanOut context arrival
        (candidates.map (withoutFailure context arrival))).effects =
      (servedCopies context arrival candidates) := by
  have passes : attempt context arrival ∘ withoutFailure context arrival =
      Trial.pass ∘ attempt context arrival := funext attempt_withoutFailure
  rw [(fanOut_yields _).2, servedGroups_map, serve_map, passes, serve_pass unobstructed]

end Failures

/-! ## Complete deliveries -/

section Complete

variable {candidates : List Candidate} (numbered : (candidates.map Candidate.number).Nodup)
  (unobstructed : Unobstructed (attempt context arrival) (servedGroups context arrival candidates))

include numbered unobstructed

theorem servedTo_eq {group : List Candidate}
    (served : group ∈ servedGroups context arrival candidates) :
    servedTo Candidate.number Handed.number (servedCopies context arrival candidates) group =
      (firstValue (attempt context arrival) group).toList := by
  exact (servedTo_iff number_of_attempt (servedGroups_disjoint numbered)).mpr unobstructed group
    served

theorem normal_copies {candidate : Candidate} (member : candidate ∈ candidates)
    (unkeyed : routeKey arrival candidate = none) :
    OneCopy context arrival (· = candidate)
      (copiesOf candidate (servedCopies context arrival candidates)) := by
  by_cases excluded : isExcluded arrival candidate
  · rw [copiesOf_excluded numbered member excluded]
    apply oneCopy_firstValue []
    simp [excluded]
  · have included := Bool.eq_false_iff.mpr excluded
    rw [copiesOf_eq, servedTo_eq numbered unobstructed]
    · exact oneCopy_firstValue [candidate] (mem_singleton_iff included)
    · apply List.mem_append_left
      exact mem_normalGroups.mpr ⟨candidate, member, unkeyed, included, rfl⟩

theorem shared_copies (key : SharedSubscriptionRouteKey) :
    OneCopy context arrival (fun member => member ∈ candidates ∧ routeKey arrival member = some key)
      (groupCopies arrival candidates key (servedCopies context arrival candidates)) := by
  by_cases present : key ∈ groupKeys context arrival candidates
  · rw [groupCopies_eq numbered, servedTo_eq numbered unobstructed]
    · exact oneCopy_firstValue _ fun _ => mem_sharedGroup.trans and_assoc.symm
    · exact List.mem_append_right _ (List.mem_map_of_mem present)
  · have nobody : ∀ member, ¬ (member ∈ candidates ∧ routeKey arrival member = some key) :=
      fun member keyed => present (mem_groupKeys.mpr ⟨member, keyed⟩)
    have nothing : candidates.filter (fun member => routeKey arrival member = some key) = [] := by
      apply List.filter_eq_nil_iff.mpr
      intro member found keyed
      exact nobody member ⟨found, decide_eq_true_eq.mp keyed⟩
    rw [groupCopies, nothing, List.filter_eq_nil_iff.mpr (by simp)]
    apply oneCopy_firstValue []
    simp [nobody]

theorem complete_of_unobstructed : Complete context arrival candidates
      (servedCopies context arrival candidates) where
  normal := fun _ member unkeyed => normal_copies numbered unobstructed member unkeyed
  shared := shared_copies numbered unobstructed
  failures := (fanOut_withoutFailure unobstructed).symm

end Complete

theorem handedCopies_route {subscriptions : List (Subscription × Surroundings)}
    (unexpired : arrival.publish.isExpired arrival.now = false)
    (found : arrival.matching = .ok subscriptions) :
    handedCopies (route context arrival).effects = (serve (attempt context arrival)
        (servedGroups context arrival (number subscriptions))).1 := by
  cases subscriptions with
  | nil =>
    have nobody : groupKeys context arrival [] = [] :=
      List.Perm.eq_nil (context.order_perm [])
    have nothing : servedGroups context arrival (number []) = [] := by
      rw [number, List.zipIdx_nil, List.map_nil, servedGroups, nobody]
      rfl
    rw [nothing, route, unexpired, found]
    rfl
  | cons =>
    rw [← (fanOut_yields _).2, route, unexpired, found]
    rfl

/-- A message that has not expired reaches everyone who can be reached exactly if no
delivery before, in the order of the routing, fails with an error, nor, in the same group,
comes to nothing because the message has expired meanwhile. -/
theorem route_complete_iff (context : RouteContext) (arrival : Arrival)
    (subscriptions : List (Subscription × Surroundings))
    (unexpired : arrival.publish.isExpired arrival.now = false)
    (found : arrival.matching = .ok subscriptions) :
    Complete context arrival (number subscriptions) (handedCopies (route context arrival).effects) ↔
      Unhindered context arrival (number subscriptions) := by
  have numbered := nodup_number subscriptions
  rw [handedCopies_route unexpired found, ← unobstructed_iff]
  constructor
  · exact Complete.unobstructed numbered
  · exact complete_of_unobstructed numbered

/-! ### A message for everyone, and a session-actor map that cannot be read -/

def subscriptionOf (clientIdentifier : String) : Subscription where
  clientIdentifier := clientIdentifier
  qos := 1
  noLocal := false
  retainAsPublished := false
  sharedGroup := none
  topicFilter := "t"

def onNode (nodeId : NodeId) : Surroundings where
  sessionActorMap := .ok (some nodeId)
  registered := true
  enqueued := .ok true

def unknown : Surroundings where
  sessionActorMap := .error "not leader"
  registered := false
  enqueued := .ok true

def singleNode : RouteContext where
  currentNodeId := 1
  cursors := fun _ => 0
  order := id
  order_perm := List.Perm.refl

def arriving (subscriptions : List (Subscription × Surroundings)) : Arrival where
  tenantId := "tenant"
  publish :=
    { protocolVersion := .v5_0
      topicName := "t"
      payload := []
      qos := 2
      retain := false
      dup := false
      packetIdentifier := some 1
      messageExpiryInterval := none
      expiresAtUnixSecs := none }
  sourceClientIdentifier := none
  now := 0
  subscriptions := .ok subscriptions
  linearizable := .ok []

def everyone : List (Subscription × Surroundings) :=
  [(subscriptionOf "a", onNode 1), ({ subscriptionOf "b" with qos := 0 }, onNode 2),
    (subscriptionOf "c", onNode 2), ({ subscriptionOf "publisher" with noLocal := true }, onNode 1),
    ({ subscriptionOf "d" with sharedGroup := some "g" }, { onNode 1 with registered := false }),
    ({ subscriptionOf "e" with sharedGroup := some "g" }, onNode 1)]

def toEveryone : Arrival :=
  { arriving everyone with sourceClientIdentifier := some "publisher" }

theorem route_complete_iff_toEveryone :
    Complete singleNode toEveryone (number everyone)
        (handedCopies (route singleNode toEveryone).effects) ∧
      (handedCopies (route singleNode toEveryone).effects).map
          (fun copy => (copy.number, copy.way, copy.publish.qos)) =
        [(0, .localSession, 1), (1, .bestEffortRoute 2, 0), (2, .durableRoute 2, 1),
          (5, .localSession, 1)] := by
  have passes : ∀ candidate ∈ number everyone, fails singleNode toEveryone candidate = false ∧
      expires singleNode toEveryone candidate = false := by
    decide +kernel
  have unhindered : Unhindered singleNode toEveryone (number everyone) := by
    intro before group after split ahead item rest parts _
    have served : group ∈ servedGroups singleNode toEveryone (number everyone) := by
      rw [split]
      exact List.mem_append_right _ List.mem_cons_self
    have member : item ∈ group := by
      rw [parts]
      exact List.mem_append_right _ List.mem_cons_self
    rcases passes item (mem_of_servedGroups served member).1 with ⟨passed, current⟩
    simp [passed, current]
  exact ⟨(route_complete_iff singleNode toEveryone everyone rfl rfl).mpr unhindered, by
    decide +kernel⟩

def oneFailure : List (Subscription × Surroundings) :=
  [(subscriptionOf "a", unknown), (subscriptionOf "b", onNode 1)]

/-- The failed lookup ends the routing, and the second client is handed nothing. -/
theorem failed_lookup_ends_routing :
    Deliverable singleNode (arriving oneFailure) ⟨1, subscriptionOf "b", onNode 1⟩ ∧
      handedCopies (route singleNode (arriving oneFailure)).effects = [] ∧
      ¬ Complete singleNode (arriving oneFailure) (number oneFailure)
        (handedCopies (route singleNode (arriving oneFailure)).effects) := by
  have deliverable : Deliverable singleNode (arriving oneFailure)
      ⟨1, subscriptionOf "b", onNode 1⟩ :=
    ⟨rfl, 1, rfl, fun _ => rfl, fun _ _ => rfl⟩
  have nothing : handedCopies (route singleNode (arriving oneFailure)).effects = [] := rfl
  refine ⟨deliverable, nothing, ?_⟩
  intro complete
  have copy := (complete.normal ⟨1, subscriptionOf "b", onNode 1⟩
    (List.mem_cons_of_mem _ List.mem_cons_self) rfl).1 ⟨_, rfl, deliverable⟩
  rcases copy with ⟨_, _, _, _, alone, _⟩
  cases alone

end Copies

end YedMQ.Router
