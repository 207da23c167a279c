import YedMQ.Topic.TopicStorage

/-! # Which subscriptions a publication reaches

`recursionGetSubscriptions` walks the levels of a topic down the tree and follows three
leaves at each node. `liveMatches` is the set of filters that this walk finds, and a
subscription is found once for each such filter under which it is stored. A storage that
keeps every subscription under its own filter and key stores it only once, so the walk
returns it at most once.
-/

namespace YedMQ.Topic

open Foundation

def liveMatches : List String → List String → Bool
  | [], [] => true
  | pattern :: filter, level :: topic =>
    (pattern == "#" && filter == []) ||
      ((pattern == "+" || pattern == level) && liveMatches filter topic)
  | _, _ => false

/-! ## The walk -/

namespace TopicStorageNode

def subscriptionsOf (path : List String) (node : TopicStorageNode) :
    Multiset Subscription :=
  ((node.contentAt path).getD .empty).subscriptions.values

theorem subscriptionsOf_cons (pattern : String) (path : List String) (node : TopicStorageNode) :
    node.subscriptionsOf (pattern :: path) =
      (node.getLeaf pattern).elim 0 (subscriptionsOf path) := by
  rw [subscriptionsOf, contentAt]
  cases node.getLeaf pattern with
  | none | some => rfl

variable {subscription : Subscription}

theorem mem_recursionGetSubscriptions (topic : List String) (node : TopicStorageNode) :
    subscription ∈ node.recursionGetSubscriptions topic ↔ ∃ path, liveMatches path topic = true ∧
        subscription ∈ node.subscriptionsOf path := by
  induction topic generalizing node with
  | nil =>
    constructor
    · intro found
      exact ⟨[], rfl, found⟩
    · rintro ⟨path, isMatch, found⟩
      cases path with
      | nil => exact found
      | cons => cases isMatch
  | cons level topic induction =>
    -- Below a leaf the walk finds what the leaf stores at the matching paths.
    have below : ∀ pattern,
        subscription ∈ (node.getLeaf pattern).elim 0 (recursionGetSubscriptions topic) ↔
          ∃ path, liveMatches path topic = true ∧
            subscription ∈ node.subscriptionsOf (pattern :: path) := by
      intro pattern
      simp only [subscriptionsOf_cons]
      cases node.getLeaf pattern with
      | none => simp
      | some leaf => exact induction leaf
    have sharp : (node.getLeaf "#").elim 0 getSubscriptions =
        node.subscriptionsOf ["#"] := (subscriptionsOf_cons "#" [] node).symm
    rw [recursionGetSubscriptions, Multiset.mem_add, Multiset.mem_add, below, below, sharp]
    constructor
    · rintro ((found | ⟨path, isMatch, found⟩) | ⟨path, isMatch, found⟩)
      · exact ⟨["#"], by simp [liveMatches], found⟩
      · exact ⟨"+" :: path, by simp [liveMatches, isMatch], found⟩
      · exact ⟨level :: path, by simp [liveMatches, isMatch], found⟩
    · rintro ⟨path, isMatch, found⟩
      cases path with
      | nil => cases isMatch
      | cons pattern path =>
        simp only [liveMatches, Bool.or_eq_true, Bool.and_eq_true, beq_iff_eq] at isMatch
        rcases isMatch with ⟨rfl, rfl⟩ | ⟨rfl | rfl, isMatch⟩
        · exact .inl (.inl found)
        · exact .inl (.inr ⟨path, isMatch, found⟩)
        · exact .inr ⟨path, isMatch, found⟩

/-- A subscription that is stored at one path only is returned as often as it is stored
there, if the path matches, and otherwise not at all. -/
theorem count_recursionGetSubscriptions {path topic : List String}
    (free : ∀ level ∈ topic, level ≠ "+" ∧ level ≠ "#") {node : TopicStorageNode}
    (only : ∀ other, subscription ∈ node.subscriptionsOf other → other = path) :
    (node.recursionGetSubscriptions topic).count subscription =
      if liveMatches path topic = true then
        (node.subscriptionsOf path).count subscription
      else
        0 := by
  induction topic generalizing path node with
  | nil =>
    rw [recursionGetSubscriptions]
    cases path with
    | nil => rfl
    | cons =>
      have absent : subscription ∉ node.getSubscriptions := by
        intro found
        cases only [] found
      simpa [liveMatches] using absent
  | cons level topic induction =>
    have restFree : ∀ level ∈ topic, level ≠ "+" ∧ level ≠ "#" := by
      intro other member
      exact free other (List.mem_cons_of_mem _ member)
    -- Only the leaf at the head of the path can contribute.
    have below : ∀ pattern, ((node.getLeaf pattern).elim 0 (recursionGetSubscriptions topic)).count
            subscription =
          if path.head? = some pattern ∧ liveMatches path.tail topic = true then
            (node.subscriptionsOf path).count subscription
          else
            0 := by
      intro pattern
      cases leafFound : node.getLeaf pattern with
      | none =>
        cases path with
        | nil => rfl
        | cons first =>
          by_cases same : first = pattern
          · subst same
            simp [subscriptionsOf_cons, leafFound]
          · simp [same]
      | some leaf =>
        have inLeaf : ∀ other, subscription ∈ leaf.subscriptionsOf other →
            pattern :: other = path := by
          intro other found
          apply only
          rw [subscriptionsOf_cons, leafFound]
          exact found
        have absent : (∀ rest, path ≠ pattern :: rest) →
            (leaf.recursionGetSubscriptions topic).count subscription = 0 := by
          intro elsewhere
          apply Multiset.count_eq_zero_of_notMem
          rw [mem_recursionGetSubscriptions]
          rintro ⟨other, _, found⟩
          exact elsewhere other (inLeaf other found).symm
        cases path with
        | nil => exact absent (by simp)
        | cons first rest =>
          by_cases same : first = pattern
          · subst same
            have inRest : ∀ other, subscription ∈ leaf.subscriptionsOf other → other = rest := by
              intro other found
              exact (List.cons.inj (inLeaf other found)).2
            simp [induction restFree inRest, subscriptionsOf_cons, leafFound]
          · rw [if_neg (by simp [same])]
            exact absent (by simp [same])
    have sharp : (node.getLeaf "#").elim 0 getSubscriptions =
        node.subscriptionsOf ["#"] := (subscriptionsOf_cons "#" [] node).symm
    have atSharp : (node.subscriptionsOf ["#"]).count subscription =
        if path = ["#"] then (node.subscriptionsOf path).count subscription else 0 := by
      by_cases same : path = ["#"]
      · simp [same]
      · rw [if_neg same]
        exact Multiset.count_eq_zero_of_notMem fun found => same (only _ found).symm
    rw [recursionGetSubscriptions, Multiset.count_add, Multiset.count_add, below, below,
      sharp, atSharp]
    have levelFree := free level (by simp)
    cases path with
    | nil => simp [liveMatches]
    | cons first rest =>
      -- The three leaves have distinct patterns.
      by_cases isSharp : first = "#"
      · subst isSharp
        have notLevel : "#" ≠ level := Ne.symm levelFree.2
        by_cases last : rest = [] <;> simp [liveMatches, last, notLevel]
      · by_cases isPlus : first = "+"
        · subst isPlus
          have notLevel : "+" ≠ level := Ne.symm levelFree.1
          simp [liveMatches, notLevel]
        · by_cases isLevel : first = level <;>
            simp [liveMatches, isPlus, isLevel, levelFree.1, levelFree.2]

end TopicStorageNode

/-! ## Walk and match -/

variable {filter topic : List String}

theorem ParentLevel.same {level : String} (notPlus : level ≠ "+") (notSharp : level ≠ "#")
    (rest : ParentLevel filter topic) :
    ParentLevel (level :: filter) (level :: topic) := by
  rcases rest with ⟨parent, rfl, notInside, parentMatch⟩
  refine ⟨level :: parent, rfl, ?_, .same notPlus notSharp parentMatch⟩
  simp [notInside, notSharp.symm]

theorem ParentLevel.plus (level : String) (rest : ParentLevel filter topic) :
    ParentLevel ("+" :: filter) (level :: topic) := by
  rcases rest with ⟨parent, rfl, notInside, parentMatch⟩
  refine ⟨"+" :: parent, rfl, ?_, .plus level parentMatch⟩
  simp [notInside]

/-- For topics without wildcards the walk finds matching filters only. -/
theorem levelsMatch_of_liveMatches (free : ∀ level ∈ topic, level ≠ "+" ∧ level ≠ "#")
    (found : liveMatches filter topic = true) : LevelsMatch filter topic := by
  induction topic generalizing filter with
  | nil =>
    cases filter with
    | nil => exact .done
    | cons => cases found
  | cons level topic induction =>
    cases filter with
    | nil => cases found
    | cons =>
      have restFree : ∀ level ∈ topic, level ≠ "+" ∧ level ≠ "#" := by
        intro other member
        exact free other (List.mem_cons_of_mem _ member)
      have levelFree := free level (by simp)
      simp only [liveMatches, Bool.or_eq_true, Bool.and_eq_true, beq_iff_eq] at found
      rcases found with ⟨rfl, rfl⟩ | ⟨rfl | rfl, found⟩
      · exact .sharp _
      · exact .plus level (induction restFree found)
      · exact .same levelFree.1 levelFree.2 (induction restFree found)

theorem liveMatches_of_levelsMatch (matched : LevelsMatch filter topic)
    (notParent : ¬ ParentLevel filter topic) :
    liveMatches filter topic = true := by
  induction matched with
  | done => rfl
  | same notPlus notSharp rest induction =>
    simp [liveMatches, induction fun parent =>
      notParent (parent.same notPlus notSharp)]
  | plus level rest induction =>
    simp [liveMatches, induction fun parent => notParent (parent.plus level)]
  | sharp topic =>
    cases topic with
    | nil => exact absurd ⟨[], rfl, by simp, .done⟩ notParent
    | cons => simp [liveMatches]

/-! ## Keys -/

theorem sharedSubscriptionKey_injective
    {leftClient leftShare rightClient rightShare : String}
    (equal : sharedSubscriptionKey leftClient leftShare =
      sharedSubscriptionKey rightClient rightShare) :
    leftClient = rightClient ∧ leftShare = rightShare := by
  have lists := congrArg String.toList equal
  simp only [sharedSubscriptionKey, String.toList_append, List.append_assoc,
    List.append_cancel_left_eq] at lists
  have parts := (List.append_cons_inj_of_notMem (Base64.colon_notMem_encode leftClient)
    (Base64.colon_notMem_encode leftShare)).mp lists
  exact ⟨Base64.encode_injective (String.toList_inj.mp parts.1),
    Base64.encode_injective (String.toList_inj.mp parts.2.2)⟩

theorem normalSubscriptionKey_injective {left right : String}
    (equal : normalSubscriptionKey left = normalSubscriptionKey right) :
    left = right := by
  have lists := congrArg String.toList equal
  simp only [normalSubscriptionKey, String.toList_append, List.append_cancel_left_eq] at lists
  exact Base64.encode_injective (String.toList_inj.mp lists)

theorem normalSubscriptionKey_ne_shared (client otherClient shareName : String) :
    normalSubscriptionKey client ≠ sharedSubscriptionKey otherClient shareName := by
  intro equal
  have lists := congrArg String.toList equal
  simp [normalSubscriptionKey, sharedSubscriptionKey] at lists

theorem Subscription.nodeKey_eq_iff {left right : Subscription} :
    left.nodeKey = right.nodeKey ↔
      left.clientIdentifier = right.clientIdentifier ∧
        left.sharedGroup = right.sharedGroup := by
  unfold Subscription.nodeKey
  cases left.sharedGroup with
  | none =>
    cases right.sharedGroup with
    | none =>
      constructor
      · intro equal
        exact ⟨normalSubscriptionKey_injective equal, rfl⟩
      · rintro ⟨client, _⟩
        simp [client]
    | some =>
      simp [normalSubscriptionKey_ne_shared]
  | some =>
    cases right.sharedGroup with
    | none => simp [(normalSubscriptionKey_ne_shared _ _ _).symm]
    | some =>
      constructor
      · intro equal
        have parts := sharedSubscriptionKey_injective equal
        exact ⟨parts.1, congrArg some parts.2⟩
      · rintro ⟨client, share⟩
        cases share
        simp [client]

/-! ## Well-filed storages -/

namespace TopicStorage

def WellFiled (storage : TopicStorage) : Prop :=
  ∀ tenantId path key subscription,
    (storage.content tenantId path).subscriptions.lookup key = some subscription →
      path = levels subscription.topicFilter ∧ key = subscription.nodeKey

def Holds (tenantId : String) (subscription : Subscription) (storage : TopicStorage) : Prop :=
  (storage.content tenantId (levels subscription.topicFilter)).subscriptions.lookup
    subscription.nodeKey = some subscription

theorem WellFiled.new : new.WellFiled := by
  intro tenantId path key subscription found
  rw [content_new] at found
  cases found

variable {storage : TopicStorage} {tenantId : String}

theorem exists_getSubscriptions (known : storage.containsTenant tenantId = true) (topic : String) :
    ∃ subscriptions, storage.getSubscriptions tenantId topic = .ok subscriptions := by
  rcases Option.isSome_iff_exists.mp known with ⟨_, present⟩
  exact ⟨_, by rw [getSubscriptions, present]⟩

variable {topic : String} {subscriptions : Multiset Subscription}

/-- What is returned comes from the walk down the tree that the content describes. -/
theorem getSubscriptions_eq_ok
    (returned : storage.getSubscriptions tenantId topic = .ok subscriptions) :
    ∃ root : TopicStorageNode, subscriptions = root.recursionGetSubscriptions (levels topic) ∧
      ∀ path, root.subscriptionsOf path = (storage.content tenantId path).subscriptions.values := by
  rw [getSubscriptions] at returned
  cases present : storage.topicTree.lookup tenantId with
  | none => simp [present] at returned
  | some tree =>
    simp only [present, Except.ok.injEq] at returned
    refine ⟨tree.root, returned.symm, ?_⟩
    intro path
    rw [content_of_tree present]
    rfl

/-- A subscription occurs in the values of a node exactly if the storage holds it and
the node is the one of its filter. -/
theorem WellFiled.mem_values_iff (wellFiled : storage.WellFiled) {path : List String}
    {subscription : Subscription} :
    subscription ∈ (storage.content tenantId path).subscriptions.values ↔
      storage.Holds tenantId subscription ∧ path = levels subscription.topicFilter := by
  rw [HashMap.mem_values_iff]
  constructor
  · intro found
    rcases found with ⟨key, found⟩
    rcases wellFiled tenantId path key subscription found with ⟨samePath, sameKey⟩
    subst samePath sameKey
    exact ⟨found, rfl⟩
  · intro held
    rcases held with ⟨held, samePath⟩
    subst samePath
    exact ⟨_, held⟩

theorem mem_getSubscriptions (wellFiled : storage.WellFiled)
    (returned : storage.getSubscriptions tenantId topic = .ok subscriptions)
    (subscription : Subscription) :
    subscription ∈ subscriptions ↔ storage.Holds tenantId subscription ∧
      liveMatches (levels subscription.topicFilter) (levels topic) = true := by
  rcases getSubscriptions_eq_ok returned with ⟨_, walked, stored⟩
  rw [walked, TopicStorageNode.mem_recursionGetSubscriptions]
  constructor
  · intro found
    rcases found with ⟨_, isMatch, member⟩
    rw [stored, wellFiled.mem_values_iff] at member
    rw [member.2] at isMatch
    exact ⟨member.1, isMatch⟩
  · intro both
    refine ⟨_, both.2, ?_⟩
    rw [stored, wellFiled.mem_values_iff]
    exact ⟨both.1, rfl⟩

/-- Retrieval from a well-filed storage: a subscription is returned once if the storage
holds it and the walk finds its filter, and otherwise not at all. -/
theorem count_getSubscriptions (wellFiled : storage.WellFiled) (free : WildcardFree topic)
    (returned : storage.getSubscriptions tenantId topic = .ok subscriptions)
    (subscription : Subscription) :
    (storage.Holds tenantId subscription →
      liveMatches (levels subscription.topicFilter) (levels topic) = true →
        subscriptions.count subscription = 1) ∧
    (¬ (storage.Holds tenantId subscription ∧
      liveMatches (levels subscription.topicFilter) (levels topic) = true) →
        subscriptions.count subscription = 0) := by
  constructor
  · intro held isMatch
    rcases getSubscriptions_eq_ok returned with ⟨root, walked, stored⟩
    have only : ∀ path, subscription ∈ root.subscriptionsOf path →
        path = levels subscription.topicFilter := by
      intro path found
      rw [stored, wellFiled.mem_values_iff] at found
      exact found.2
    rw [walked, TopicStorageNode.count_recursionGetSubscriptions
      (fun level member => free.level_ne member) only, if_pos isMatch, stored]
    exact HashMap.count_values_of_unique held fun key found =>
      (wellFiled tenantId _ key subscription found).2
  · intro notBoth
    apply Multiset.count_eq_zero_of_notMem
    rw [mem_getSubscriptions wellFiled returned]
    exact notBoth

end TopicStorage

end YedMQ.Topic
