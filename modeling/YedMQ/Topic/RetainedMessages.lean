import YedMQ.Topic.Subscriptions

/-! # Which retained messages a filter reaches

`recursionGetRetainPacket` walks the levels of a filter down the tree of topics: a plus
visits every leaf and a sharp collects the whole subtree, the node itself included.
`retainMatches` is the set of topics that this walk finds. It differs from the walk of
`recursionGetSubscriptions` at the parent level of a filter that ends in a sharp, and
nowhere else.
-/

namespace YedMQ.Topic

open Foundation

def retainMatches : List String → List String → Bool
  | [], topic => topic == []
  | pattern :: filter, topic =>
    pattern == "#" ||
      match topic with
      | [] => false
      | level :: topic =>
        (pattern == "+" || pattern == level) && retainMatches filter topic

/-! ## The walk -/

namespace TopicStorageNode

def retainedOf (path : List String) (node : TopicStorageNode) : Option Packet :=
  ((node.contentAt path).getD .empty).retainPublishPacket

@[simp] theorem retainedOf_nil (node : TopicStorageNode) :
    node.retainedOf [] = node.content.retainPublishPacket := rfl

theorem retainedOf_cons (pattern : String) (path : List String) (node : TopicStorageNode) :
    node.retainedOf (pattern :: path) = (node.getLeaf pattern).bind (retainedOf path) := by
  rw [retainedOf, contentAt]
  cases node.getLeaf pattern with
  | none | some => rfl

/-- What a leaf holds, the node holds one level further down. -/
theorem retainedOf_leaf {pattern : String} {node leaf : TopicStorageNode}
    (found : node.getLeaf pattern = some leaf) (path : List String) :
    node.retainedOf (pattern :: path) = leaf.retainedOf path := by
  rw [retainedOf_cons, found]
  rfl

end TopicStorageNode

mutual
theorem TopicStorageNode.retainedOf_of_mem_collect {packet : Packet} :
    ∀ {node : TopicStorageNode}, node.WellFormed →
      packet ∈ node.collectRetainSubtree → ∃ path, node.retainedOf path = some packet
  | .mk topicPattern content leaves, wellFormed, member => by
    rw [TopicStorageNode.collectRetainSubtree, Multiset.mem_add] at member
    rcases member with here | below
    · refine ⟨[], ?_⟩
      change content.retainPublishPacket = some packet
      simpa using here
    · rcases Leaves.retainedOf_of_mem_collect wellFormed below with
        ⟨pattern, _, path, found, held⟩
      have same := @TopicStorageNode.retainedOf_leaf pattern (.mk topicPattern content leaves) _
        found path
      exact ⟨pattern :: path, same.trans held⟩

theorem Leaves.retainedOf_of_mem_collect {packet : Packet} :
    ∀ {leaves : Leaves}, leaves.WellFormed → packet ∈ leaves.collectRetainSubtrees →
      ∃ pattern leaf path, leaves.get? pattern = some leaf ∧ leaf.retainedOf path = some packet
  | .nil, _, member => by cases member
  | .cons pattern leaf rest, wellFormed, member => by
    rw [Leaves.collectRetainSubtrees, Multiset.mem_add] at member
    rcases member with first | later
    · rcases TopicStorageNode.retainedOf_of_mem_collect wellFormed.2.1 first with
        ⟨path, held⟩
      exact ⟨pattern, leaf, path, by simp [Leaves.get?], held⟩
    · rcases Leaves.retainedOf_of_mem_collect wellFormed.2.2 later with
        ⟨otherPattern, other, path, found, held⟩
      refine ⟨otherPattern, other, path, ?_, held⟩
      apply Leaves.get?_of_mem_toList wellFormed
      exact List.mem_cons_of_mem _ (Leaves.mem_toList_of_get? found)
end

namespace Leaves

theorem collectRetainSubtrees_eq_sum : ∀ leaves : Leaves, leaves.collectRetainSubtrees =
      (leaves.toList.map fun leaf => leaf.2.collectRetainSubtree).sum
  | nil => rfl
  | cons pattern leaf rest => by
    rw [collectRetainSubtrees, collectRetainSubtrees_eq_sum rest, toList,
      List.map_cons, List.sum_cons]

variable {visit : TopicStorageNode → Multiset Packet}

/-- What all leaves yield together comes from one of them. -/
theorem get?_of_mem_sum {packet : Packet} : ∀ {leaves : Leaves}, leaves.WellFormed →
      packet ∈ (leaves.toList.map fun leaf => visit leaf.2).sum →
        ∃ pattern leaf, leaves.get? pattern = some leaf ∧ packet ∈ visit leaf
  | nil, _, member => by cases member
  | cons pattern leaf rest, wellFormed, member => by
    rw [toList, List.map_cons, List.sum_cons, Multiset.mem_add] at member
    rcases member with first | later
    · exact ⟨pattern, leaf, by simp [get?], first⟩
    · rcases get?_of_mem_sum wellFormed.2.2 later with ⟨other, found, present, member⟩
      refine ⟨other, found, ?_, member⟩
      apply get?_of_mem_toList wellFormed
      exact List.mem_cons_of_mem _ (mem_toList_of_get? present)

/-- What all leaves yield together of a packet is what the one leaf yields that can
hold it. -/
theorem count_sum {packet : Packet} {place : Option String} :
    ∀ {leaves : Leaves}, leaves.WellFormed →
      (∀ pattern leaf, leaves.get? pattern = some leaf → place ≠ some pattern →
        packet ∉ visit leaf) →
      (leaves.toList.map fun leaf => visit leaf.2).sum.count packet =
        (place.bind leaves.get?).elim 0 fun leaf => (visit leaf).count packet
  | nil, _, _ => by
    cases place with
    | none | some => rfl
  | cons pattern leaf rest, wellFormed, elsewhere => by
    have later : ∀ other found, rest.get? other = some found →
        place ≠ some other → packet ∉ visit found := by
      intro other found present
      apply elsewhere other found
      apply get?_of_mem_toList wellFormed
      exact List.mem_cons_of_mem _ (mem_toList_of_get? present)
    have induction := count_sum wellFormed.2.2 later
    rw [toList, List.map_cons, List.sum_cons, Multiset.count_add, induction]
    by_cases here : place = some pattern
    · subst here
      have onlyOnce : rest.get? pattern = none := by
        by_contra present
        rcases Option.ne_none_iff_exists'.mp present with ⟨other, found⟩
        exact wellFormed.1 (List.mem_map.mpr ⟨_, mem_toList_of_get? found, rfl⟩)
      simp [get?, onlyOnce]
    · have absent := elsewhere pattern leaf (by simp [get?]) here
      rw [Multiset.count_eq_zero_of_notMem absent]
      cases place with
      | none => rfl
      | some other =>
        have different : pattern ≠ other := by
          rintro rfl
          exact here rfl
        simp [get?, different]

end Leaves

namespace TopicStorageNode

theorem collectRetainSubtree_eq (node : TopicStorageNode) :
    node.collectRetainSubtree = (node.content.retainPublishPacket.toList : Multiset Packet) +
        (node.leaves.toList.map fun leaf => leaf.2.collectRetainSubtree).sum := by
  cases node
  rw [collectRetainSubtree, Leaves.collectRetainSubtrees_eq_sum]
  rfl

variable {packet : Packet}

theorem count_toList (retained : Option Packet) :
    (retained.toList : Multiset Packet).count packet =
      if retained = some packet then 1 else 0 := by
  cases retained with
  | none => rfl
  | some =>
    simp only [Option.toList_some, Multiset.coe_singleton, Multiset.count_singleton,
      Option.some.injEq]
    simp [eq_comm]

variable {node : TopicStorageNode}

theorem WellFormed.leaves (wellFormed : node.WellFormed) :
    node.leaves.WellFormed := by
  cases node
  exact wellFormed

variable {path : List String}

/-- A leaf that is not on the path of a packet yields nothing of it. -/
theorem notMem_of_elsewhere {visit : TopicStorageNode → Multiset Packet}
    (wellFormed : node.WellFormed)
    (only : ∀ other, node.retainedOf other = some packet → other = path)
    (retains : ∀ {leaf : TopicStorageNode}, leaf.WellFormed → packet ∈ visit leaf →
      ∃ rest, leaf.retainedOf rest = some packet) (level : String) (leaf : TopicStorageNode)
    (found : node.leaves.get? level = some leaf) (different : path.head? ≠ some level) :
    packet ∉ visit leaf := by
  intro member
  rcases retains (wellFormed.getLeaf found) member with ⟨rest, held⟩
  rw [← only (level :: rest) ((retainedOf_leaf found rest).trans held)] at different
  exact different rfl

theorem only_leaf {level : String} {leaf : TopicStorageNode}
    (only : ∀ other, node.retainedOf other = some packet → other = level :: path)
    (found : node.leaves.get? level = some leaf) (other : List String)
    (held : leaf.retainedOf other = some packet) : other = path :=
  (List.cons.inj (only (level :: other) ((retainedOf_leaf found other).trans held))).2

theorem count_collectRetainSubtree (wellFormed : node.WellFormed)
    (only : ∀ other, node.retainedOf other = some packet → other = path) :
    node.collectRetainSubtree.count packet =
      if node.retainedOf path = some packet then 1 else 0 := by
  induction path generalizing node with
  | nil =>
    rw [collectRetainSubtree_eq, Multiset.count_add, count_toList, Leaves.count_sum
      wellFormed.leaves (notMem_of_elsewhere wellFormed only retainedOf_of_mem_collect)]
    rfl
  | cons pattern path induction =>
    have notHere : node.content.retainPublishPacket ≠ some packet := by
      intro held
      cases only [] held
    rw [collectRetainSubtree_eq, Multiset.count_add, count_toList, if_neg notHere,
      Leaves.count_sum wellFormed.leaves
        (notMem_of_elsewhere wellFormed only retainedOf_of_mem_collect), retainedOf_cons, getLeaf]
    cases found : node.leaves.get? pattern with
    | none => simp [found]
    | some => simp [found, induction (wellFormed.getLeaf found) (only_leaf only found)]

variable {filter : List String}

/-- Everything that the walk returns is retained at some path. -/
theorem retainedOf_of_mem_recursionGetRetainPacket (wellFormed : node.WellFormed)
    (member : packet ∈ node.recursionGetRetainPacket filter) :
    ∃ path, node.retainedOf path = some packet := by
  induction filter generalizing node with
  | nil =>
    rw [recursionGetRetainPacket] at member
    exact ⟨[], by simpa using member⟩
  | cons pattern filter induction =>
    have below : ∀ level leaf, node.getLeaf level = some leaf →
        packet ∈ leaf.recursionGetRetainPacket filter →
          ∃ path, node.retainedOf path = some packet := by
      intro level leaf found member
      rcases induction (wellFormed.getLeaf found) member with ⟨path, held⟩
      exact ⟨level :: path, (retainedOf_leaf found path).trans held⟩
    rw [recursionGetRetainPacket] at member
    split at member
    · exact retainedOf_of_mem_collect wellFormed member
    · split at member
      · rcases Leaves.get?_of_mem_sum wellFormed.leaves member with
          ⟨level, leaf, found, member⟩
        exact below level leaf found member
      · cases found : node.getLeaf pattern with
        | none => simp [found] at member
        | some leaf =>
          rw [found] at member
          exact below pattern leaf found member

/-- A packet retained at one path only is returned once, if the walk visits the path,
and otherwise not at all. -/
theorem count_recursionGetRetainPacket (wellFormed : node.WellFormed)
    (only : ∀ other, node.retainedOf other = some packet → other = path) :
    (node.recursionGetRetainPacket filter).count packet =
      if retainMatches filter path = true ∧ node.retainedOf path = some packet then 1
      else 0 := by
  induction filter generalizing node path with
  | nil =>
    rw [recursionGetRetainPacket, count_toList]
    cases path with
    | nil => simp [retainMatches]
    | cons =>
      have notHere : node.content.retainPublishPacket ≠ some packet := by
        intro held
        cases only [] held
      simp [retainMatches, notHere]
  | cons pattern filter induction =>
    -- A leaf that is not on the path yields nothing; the one on it, by induction.
    have elsewhere := notMem_of_elsewhere wellFormed only
      fun formed => @retainedOf_of_mem_recursionGetRetainPacket packet _ filter formed
    have onPath : ∀ level rest leaf, path = level :: rest → node.leaves.get? level = some leaf →
          (leaf.recursionGetRetainPacket filter).count packet =
            if retainMatches filter rest = true ∧ node.retainedOf path = some packet
            then 1 else 0 := by
      intro level rest leaf split found
      subst split
      rw [retainedOf_leaf found]
      exact induction (wellFormed.getLeaf found) (only_leaf only found)
    rw [recursionGetRetainPacket]
    by_cases isSharp : pattern = "#"
    · rw [if_pos isSharp, count_collectRetainSubtree wellFormed only]
      simp [retainMatches, isSharp]
    · rw [if_neg isSharp]
      by_cases isPlus : pattern = "+"
      · rw [if_pos isPlus, Leaves.count_sum wellFormed.leaves elsewhere]
        cases path with
        | nil => simp [retainMatches, isSharp]
        | cons level rest =>
          cases found : node.leaves.get? level with
          | none => simp [found, retainedOf_cons, getLeaf]
          | some leaf =>
            simp [found, retainMatches, isPlus, onPath level rest leaf rfl found]
      · rw [if_neg isPlus]
        cases found : node.getLeaf pattern with
        | none =>
          cases path with
          | nil => simp [retainMatches, isSharp]
          | cons level =>
            by_cases same : pattern = level
            · subst same
              simp [retainedOf_cons, found]
            · simp [retainMatches, isSharp, isPlus, same]
        | some leaf =>
          cases path with
          | nil =>
            have absent := elsewhere pattern leaf found (by simp)
            simp [retainMatches, isSharp, absent]
          | cons level rest =>
            by_cases same : pattern = level
            · subst same
              simp [retainMatches, isSharp, onPath pattern rest leaf rfl found]
            · have absent := elsewhere pattern leaf found (by
                simpa using Ne.symm same)
              simp [retainMatches, isSharp, isPlus, same, absent]

end TopicStorageNode

/-! ## The two walks compared -/

variable {topic : List String}

theorem parentLevel_sharp_iff : ParentLevel ["#"] topic ↔ topic = [] := by
  constructor
  · rintro ⟨parent, ends, _, matched⟩
    have root : parent = [] := by simpa using ends
    subst root
    cases matched
    rfl
  · rintro rfl
    exact ⟨[], rfl, by simp, .done⟩

variable {filter : List String}

theorem parentLevel_cons_iff {pattern : String} (notSharp : pattern ≠ "#") :
    ParentLevel (pattern :: filter) topic ↔
      ∃ level rest, topic = level :: rest ∧ (pattern = "+" ∨ pattern = level) ∧
        ParentLevel filter rest := by
  constructor
  · rintro ⟨parent, ends, notInside, matched⟩
    cases parent with
    | nil =>
      have sharp := (List.cons.inj ends).1
      exact absurd sharp notSharp
    | cons first parent =>
      rcases List.cons.inj ends with ⟨rfl, tailEnds⟩
      have notBelow : "#" ∉ parent := fun member =>
        notInside (List.mem_cons_of_mem _ member)
      cases matched with
      | same notPlus notSharp rest =>
        exact ⟨_, _, rfl, .inr rfl, parent, tailEnds, notBelow, rest⟩
      | plus level rest =>
        exact ⟨_, _, rfl, .inl rfl, parent, tailEnds, notBelow, rest⟩
      | sharp => exact absurd rfl notSharp
  · rintro ⟨level, _, rfl, onLevel, parent⟩
    by_cases isPlus : pattern = "+"
    · subst isPlus
      exact parent.plus level
    · rcases onLevel with plus | rfl
      · exact absurd plus isPlus
      · exact parent.same isPlus notSharp

/-- For a valid filter, the walk for retained messages finds what the walk for
subscriptions finds, and the parent level besides. -/
theorem retainMatches_iff (valid : testLevels filter = true) :
    retainMatches filter topic = true ↔
      liveMatches filter topic = true ∨ ParentLevel filter topic := by
  induction filter generalizing topic with
  | nil =>
    have noParent : ¬ ParentLevel [] topic := by
      rintro ⟨parent, ends, _⟩
      simp at ends
    cases topic <;> simp [retainMatches, liveMatches, noParent]
  | cons pattern filter induction =>
    by_cases isSharp : pattern = "#"
    · subst isSharp
      cases eq_nil_of_testLevels_sharp valid
      rw [parentLevel_sharp_iff]
      cases topic <;> simp [retainMatches, liveMatches]
    · rw [parentLevel_cons_iff isSharp]
      cases topic with
      | nil => simp [retainMatches, liveMatches, isSharp]
      | cons level topic =>
        have tail := @induction topic (testLevels_tail valid)
        simp only [retainMatches, liveMatches, Bool.or_eq_true, Bool.and_eq_true,
          beq_iff_eq, isSharp, false_or, false_and, tail]
        constructor
        · rintro ⟨onLevel, live | parent⟩
          · exact .inl ⟨onLevel, live⟩
          · exact .inr ⟨level, topic, rfl, onLevel, parent⟩
        · rintro (⟨onLevel, live⟩ | ⟨_, _, same, onLevel, parent⟩)
          · exact ⟨onLevel, .inl live⟩
          · cases same
            exact ⟨onLevel, .inr parent⟩

/-- The walk for subscriptions never finds the parent level. -/
theorem not_liveMatches_of_parentLevel (parent : ParentLevel filter topic) :
    liveMatches filter topic = false := by
  induction filter generalizing topic with
  | nil =>
    rcases parent with ⟨above, ends, _⟩
    simp at ends
  | cons pattern filter induction =>
    by_cases isSharp : pattern = "#"
    · subst isSharp
      cases topic with
      | nil => rfl
      | cons =>
        rcases parent with ⟨above, ends, notInside, matched⟩
        cases above with
        | nil => cases matched
        | cons =>
          cases (List.cons.inj ends).1
          simp at notInside
    · rcases (parentLevel_cons_iff isSharp).mp parent with
        ⟨_, _, rfl, _, below⟩
      simp [liveMatches, isSharp, induction below]

end YedMQ.Topic
