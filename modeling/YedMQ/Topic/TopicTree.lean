import YedMQ.Foundation.HashMap
import YedMQ.Mqtt.Packet
import YedMQ.Topic.Filter

/-! # Topic trees

A tenant's subscriptions and retained messages live in one tree. A path from the root
spells the levels of a filter or topic; the node at its end holds the subscriptions on
that filter and the message retained for that topic. The leaves of a node form a hash
map in the source; here they are an association list whose patterns are distinct, which
`WellFormed` states and `TopicTree` carries. What a tree stores is its `content` at
each path, and two trees with the same content everywhere are the same state.
-/

namespace YedMQ.Topic

open Foundation

structure Subscription where
  clientIdentifier : String
  qos : UInt8
  noLocal : Bool
  retainAsPublished : Bool
  sharedGroup : Option String
  topicFilter : String
deriving DecidableEq, Repr

def normalSubscriptionKey (clientIdentifier : String) : String :=
  "$normal:" ++ Base64.encode clientIdentifier

def legacyNormalSubscriptionKey (clientIdentifier : String) : String :=
  clientIdentifier

def sharedSubscriptionKey (clientIdentifier shareName : String) : String :=
  "$shared:" ++ Base64.encode clientIdentifier ++ ":" ++ Base64.encode shareName

def Subscription.nodeKey (subscription : Subscription) : String :=
  match subscription.sharedGroup with
  | some group => sharedSubscriptionKey subscription.clientIdentifier group
  | none => normalSubscriptionKey subscription.clientIdentifier

/-! ## Nodes -/

@[ext]
structure NodeContent where
  subscriptions : HashMap String Subscription
  retainPublishPacket : Option Packet
deriving DecidableEq

namespace NodeContent

def empty : NodeContent where
  subscriptions := ∅
  retainPublishPacket := none

def addSubscription (subscription : Subscription) (content : NodeContent) :
    NodeContent :=
  { content with
    subscriptions := content.subscriptions.insert subscription.nodeKey subscription }

def setRetainPublishMessage (publishPacket : Packet) (content : NodeContent) :
    NodeContent :=
  { content with retainPublishPacket := some publishPacket }

def cleanRetainPublishMessage (content : NodeContent) : NodeContent :=
  { content with retainPublishPacket := none }

def removeSubscription (clientIdentifier : String) (sharedGroup : Option String)
    (content : NodeContent) (key : String) : NodeContent :=
  { content with
    subscriptions := content.subscriptions.retain fun stored subscription =>
      !(stored == key && subscription.clientIdentifier == clientIdentifier &&
        subscription.sharedGroup == sharedGroup) }

def removeSubscriptions (keys : List String) (clientIdentifier : String)
    (sharedGroup : Option String) (content : NodeContent) : NodeContent :=
  keys.foldl (removeSubscription clientIdentifier sharedGroup) content

end NodeContent

mutual
inductive TopicStorageNode where
  | mk (topicPattern : String) (content : NodeContent) (leaves : Leaves)

inductive Leaves where
  | nil
  | cons (topicPattern : String) (leaf : TopicStorageNode) (rest : Leaves)
end

namespace Leaves

def get? (topicPattern : String) : Leaves → Option TopicStorageNode
  | nil => none
  | cons pattern leaf rest =>
    if pattern = topicPattern then some leaf else rest.get? topicPattern

def set (topicPattern : String) (leaf : TopicStorageNode) : Leaves → Leaves
  | nil => cons topicPattern leaf nil
  | cons pattern old rest =>
    if pattern = topicPattern then cons pattern leaf rest
    else cons pattern old (rest.set topicPattern leaf)

def toList : Leaves → List (String × TopicStorageNode)
  | nil => []
  | cons pattern leaf rest => (pattern, leaf) :: rest.toList

@[simp] theorem get?_set_self (topicPattern : String) (leaf : TopicStorageNode) :
    ∀ leaves : Leaves, (leaves.set topicPattern leaf).get? topicPattern = some leaf
  | nil => by simp [set, get?]
  | cons pattern old rest => by
    by_cases same : pattern = topicPattern
    · simp [set, get?, same]
    · simp [set, get?, same, get?_set_self topicPattern leaf rest]

theorem get?_set_of_ne {topicPattern other : String} (different : other ≠ topicPattern)
    (leaf : TopicStorageNode) :
    ∀ leaves : Leaves, (leaves.set topicPattern leaf).get? other = leaves.get? other
  | nil => by simp [set, get?, different.symm]
  | cons pattern old rest => by
    by_cases same : pattern = topicPattern
    · subst same
      simp [set, get?, different.symm]
    · simp [set, get?, same, get?_set_of_ne different leaf rest]

theorem mem_patterns_set (topicPattern pattern : String) (leaf : TopicStorageNode) :
    ∀ leaves : Leaves, pattern ∈ (leaves.set topicPattern leaf).toList.map Prod.fst ↔
        pattern = topicPattern ∨ pattern ∈ leaves.toList.map Prod.fst
  | nil => by simp [set, toList]
  | cons first old rest => by
    by_cases same : first = topicPattern
    · subst same
      simp [set, toList]
    · simp only [set, same, if_false, toList, List.map_cons, List.mem_cons,
        mem_patterns_set topicPattern pattern leaf rest]
      tauto

end Leaves

namespace TopicStorageNode

def content : TopicStorageNode → NodeContent
  | mk _ content _ => content

def leaves : TopicStorageNode → Leaves
  | mk _ _ leaves => leaves

def new (topicPattern : String) : TopicStorageNode :=
  mk topicPattern NodeContent.empty .nil

def mapContent (update : NodeContent → NodeContent) : TopicStorageNode → TopicStorageNode
  | mk topicPattern content leaves => mk topicPattern (update content) leaves

def getSubscriptions (node : TopicStorageNode) : Multiset Subscription :=
  node.content.subscriptions.values

def getLeaf (topicPattern : String) (node : TopicStorageNode) :
    Option TopicStorageNode :=
  node.leaves.get? topicPattern

def findOrCreateLeaf (topicPattern : String) (node : TopicStorageNode) :
    TopicStorageNode :=
  (node.getLeaf topicPattern).getD (new topicPattern)

def setLeaf (node : TopicStorageNode) (topicPattern : String)
    (leaf : TopicStorageNode) : TopicStorageNode :=
  match node with
  | mk pattern content leaves => mk pattern content (leaves.set topicPattern leaf)

def recursionUpdate (update : NodeContent → NodeContent) :
    List String → TopicStorageNode → TopicStorageNode
  | [], node => node.mapContent update
  | pattern :: rest, node =>
    node.setLeaf pattern (recursionUpdate update rest (node.findOrCreateLeaf pattern))

def recursionUpdateExisting (update : NodeContent → NodeContent) :
    List String → TopicStorageNode → Except TopicStorageError TopicStorageNode
  | [], node => .ok (node.mapContent update)
  | pattern :: rest, node =>
    match node.getLeaf pattern with
    | none => .error (.topicNotFound pattern)
    | some leaf =>
      match recursionUpdateExisting update rest leaf with
      | .ok updated => .ok (node.setLeaf pattern updated)
      | .error error => .error error

def recursionGetSubscriptions : List String → TopicStorageNode → Multiset Subscription
  | [], node => node.getSubscriptions
  | pattern :: rest, node =>
    (node.getLeaf "#").elim 0 getSubscriptions +
      (node.getLeaf "+").elim 0 (recursionGetSubscriptions rest) +
      (node.getLeaf pattern).elim 0 (recursionGetSubscriptions rest)

end TopicStorageNode

mutual
def TopicStorageNode.collectRetainSubtree : TopicStorageNode → Multiset Packet
  | .mk _ content leaves =>
    (content.retainPublishPacket.toList : Multiset Packet) + leaves.collectRetainSubtrees

def Leaves.collectRetainSubtrees : Leaves → Multiset Packet
  | .nil => 0
  | .cons _ leaf rest => leaf.collectRetainSubtree + rest.collectRetainSubtrees
end

def TopicStorageNode.recursionGetRetainPacket : List String → TopicStorageNode → Multiset Packet
  | [], node => (node.content.retainPublishPacket.toList : Multiset Packet)
  | pattern :: rest, node =>
    if pattern = "#" then
      node.collectRetainSubtree
    else if pattern = "+" then
      (node.leaves.toList.map fun leaf =>
        leaf.2.recursionGetRetainPacket rest).sum
    else
      match node.getLeaf pattern with
      | some leaf => leaf.recursionGetRetainPacket rest
      | none => 0

/-! ## Content by path -/

namespace TopicStorageNode

def contentAt : List String → TopicStorageNode → Option NodeContent
  | [], node => some node.content
  | pattern :: rest, node =>
    match node.getLeaf pattern with
    | some leaf => leaf.contentAt rest
    | none => none

variable (topicPattern : String)

@[simp] theorem getLeaf_setLeaf_self (leaf node : TopicStorageNode) :
    (node.setLeaf topicPattern leaf).getLeaf topicPattern = some leaf := by
  cases node
  exact Leaves.get?_set_self topicPattern leaf _

theorem getLeaf_setLeaf_of_ne {topicPattern other : String}
    (different : other ≠ topicPattern) (leaf node : TopicStorageNode) :
    (node.setLeaf topicPattern leaf).getLeaf other = node.getLeaf other := by
  cases node
  exact Leaves.get?_set_of_ne different leaf _

@[simp] theorem content_setLeaf (leaf node : TopicStorageNode) :
    (node.setLeaf topicPattern leaf).content = node.content := by
  cases node
  rfl

variable (update : NodeContent → NodeContent)
variable (node : TopicStorageNode)

@[simp] theorem content_mapContent : (node.mapContent update).content = update node.content := by
  cases node
  rfl

@[simp] theorem getLeaf_mapContent :
    (node.mapContent update).getLeaf topicPattern = node.getLeaf topicPattern := by
  cases node
  rfl

variable (path : List String)

theorem contentAt_new :
    (new topicPattern).contentAt path =
      if path = [] then some NodeContent.empty else none := by
  cases path with
  | nil | cons => rfl

theorem contentAt_findOrCreateLeaf :
    (node.findOrCreateLeaf topicPattern).contentAt path =
      match node.getLeaf topicPattern with
      | some leaf => leaf.contentAt path
      | none => if path = [] then some NodeContent.empty else none := by
  unfold findOrCreateLeaf
  cases node.getLeaf topicPattern with
  | none => exact contentAt_new topicPattern path
  | some => rfl

/-- An update along a path changes the content at its end, adds the missing nodes on
the way and leaves everything else alone. -/
theorem contentAt_recursionUpdate (other : List String) :
    (node.recursionUpdate update path).contentAt other =
      if other = path then
        some (update ((node.contentAt path).getD NodeContent.empty))
      else if other <+: path then
        some ((node.contentAt other).getD NodeContent.empty)
      else
        node.contentAt other := by
  induction path generalizing node other with
  | nil =>
    cases other with
    | nil | cons => simp [recursionUpdate, contentAt]
  | cons pattern rest induction =>
    cases other with
    | nil => simp [recursionUpdate, contentAt]
    | cons otherPattern otherRest =>
      by_cases same : otherPattern = pattern
      · subst same
        rw [recursionUpdate, contentAt, getLeaf_setLeaf_self]
        dsimp only
        rw [induction]
        -- The leaf is the existing one or fresh; a fresh one is empty.
        cases found : node.getLeaf otherPattern with
        | none =>
          simp only [contentAt_findOrCreateLeaf, found, contentAt, List.cons.injEq,
            List.cons_prefix_cons]
          by_cases atEnd : otherRest = rest
          · simp only [atEnd, if_true]
            split <;> rfl
          · by_cases onWay : otherRest <+: rest
            · simp only [atEnd, onWay, if_true, if_false]
              split <;> rfl
            · have nonempty : otherRest ≠ [] := by
                intro empty
                exact onWay (by simp [empty])
              simp [atEnd, nonempty]
        | some =>
          simp [contentAt_findOrCreateLeaf, found, contentAt]
      · rw [recursionUpdate, contentAt, getLeaf_setLeaf_of_ne same]
        simp [contentAt, same]

/-- An update of an existing path succeeds exactly if the path exists, and changes the
content at its end only. -/
theorem recursionUpdateExisting_spec :
    match node.recursionUpdateExisting update path with
    | .ok updated =>
      (node.contentAt path).isSome ∧ ∀ other, updated.contentAt other =
          if other = path then (node.contentAt path).map update
          else node.contentAt other
    | .error _ => node.contentAt path = none := by
  induction path generalizing node with
  | nil =>
    refine ⟨rfl, fun other => ?_⟩
    cases other with
    | nil | cons => simp [contentAt]
  | cons pattern rest induction =>
    rw [recursionUpdateExisting]
    cases found : node.getLeaf pattern with
    | none => simp [contentAt, found]
    | some leaf =>
      have deeper := induction leaf
      cases outcome : leaf.recursionUpdateExisting update rest with
      | error =>
        simpa [outcome, contentAt, found] using deeper
      | ok =>
        rw [outcome] at deeper
        simp only [outcome]
        refine ⟨by simpa [contentAt, found] using deeper.1, fun other => ?_⟩
        cases other with
        | nil => simp [contentAt]
        | cons otherPattern otherRest =>
          by_cases same : otherPattern = pattern
          · subst same
            simp [contentAt, found, deeper.2 otherRest]
          · simp [contentAt, getLeaf_setLeaf_of_ne same, same]

end TopicStorageNode

/-! ## Well-formed trees -/

mutual
def TopicStorageNode.WellFormed : TopicStorageNode → Prop
  | .mk _ _ leaves => leaves.WellFormed

def Leaves.WellFormed : Leaves → Prop
  | .nil => True
  | .cons pattern leaf rest =>
    pattern ∉ rest.toList.map Prod.fst ∧ leaf.WellFormed ∧ rest.WellFormed
end

namespace Leaves

variable {topicPattern : String} {leaf : TopicStorageNode}

theorem mem_toList_of_get? : ∀ {leaves : Leaves}, leaves.get? topicPattern = some leaf →
      (topicPattern, leaf) ∈ leaves.toList
  | nil, found => by simp [get?] at found
  | cons pattern first rest, found => by
    by_cases same : pattern = topicPattern
    · simp only [get?, same, if_true, Option.some.injEq] at found
      simp [toList, same, found]
    · simp only [get?, same, if_false] at found
      exact List.mem_cons_of_mem _ (mem_toList_of_get? found)

theorem get?_of_mem_toList :
    ∀ {leaves : Leaves}, leaves.WellFormed → (topicPattern, leaf) ∈ leaves.toList →
      leaves.get? topicPattern = some leaf
  | cons pattern first rest, wellFormed, member => by
    rcases List.mem_cons.mp member with equal | later
    · cases equal
      simp [get?]
    · have different : pattern ≠ topicPattern := by
        intro same
        exact wellFormed.1 (List.mem_map.mpr ⟨_, later, same.symm⟩)
      simp [get?, different, get?_of_mem_toList wellFormed.2.2 later]

theorem WellFormed.get? :
    ∀ {leaves : Leaves}, leaves.WellFormed → leaves.get? topicPattern = some leaf → leaf.WellFormed
  | cons pattern first rest, wellFormed, found => by
    by_cases same : pattern = topicPattern
    · simp only [Leaves.get?, same, if_true, Option.some.injEq] at found
      exact found ▸ wellFormed.2.1
    · simp only [Leaves.get?, same, if_false] at found
      exact WellFormed.get? wellFormed.2.2 found

theorem WellFormed.set (leafWellFormed : leaf.WellFormed) :
    ∀ {leaves : Leaves}, leaves.WellFormed → (leaves.set topicPattern leaf).WellFormed
  | nil, _ => ⟨by simp [toList], leafWellFormed, trivial⟩
  | cons pattern old rest, wellFormed => by
    by_cases same : pattern = topicPattern
    · simp only [Leaves.set, same, if_true]
      exact ⟨same ▸ wellFormed.1, leafWellFormed, wellFormed.2.2⟩
    · simp only [Leaves.set, same, if_false]
      refine ⟨?_, wellFormed.2.1, WellFormed.set leafWellFormed wellFormed.2.2⟩
      rw [mem_patterns_set]
      exact fun found => found.elim same wellFormed.1

end Leaves

namespace TopicStorageNode

theorem WellFormed.new (topicPattern : String) : (new topicPattern).WellFormed :=
  trivial

variable {node : TopicStorageNode}

theorem WellFormed.mapContent (update : NodeContent → NodeContent) (wellFormed : node.WellFormed) :
    (node.mapContent update).WellFormed := by
  cases node
  exact wellFormed

variable {leaf : TopicStorageNode}

theorem WellFormed.getLeaf {topicPattern : String} (wellFormed : node.WellFormed)
    (found : node.getLeaf topicPattern = some leaf) :
    leaf.WellFormed := by
  cases node
  exact Leaves.WellFormed.get? wellFormed found

theorem WellFormed.setLeaf (topicPattern : String) (wellFormed : node.WellFormed)
    (leafWellFormed : leaf.WellFormed) :
    (node.setLeaf topicPattern leaf).WellFormed := by
  cases node
  exact Leaves.WellFormed.set leafWellFormed wellFormed

theorem WellFormed.findOrCreateLeaf (topicPattern : String) (wellFormed : node.WellFormed) :
    (node.findOrCreateLeaf topicPattern).WellFormed := by
  unfold TopicStorageNode.findOrCreateLeaf
  cases found : node.getLeaf topicPattern with
  | none => exact WellFormed.new topicPattern
  | some => exact wellFormed.getLeaf found

theorem WellFormed.recursionUpdate (update : NodeContent → NodeContent) (path : List String)
    (wellFormed : node.WellFormed) : (node.recursionUpdate update path).WellFormed := by
  induction path generalizing node with
  | nil => exact wellFormed.mapContent update
  | cons pattern rest induction =>
    exact wellFormed.setLeaf pattern (induction (wellFormed.findOrCreateLeaf pattern))

theorem WellFormed.recursionUpdateExisting {updated : TopicStorageNode}
    {update : NodeContent → NodeContent} {path : List String} (wellFormed : node.WellFormed)
    (succeeded : node.recursionUpdateExisting update path = .ok updated) :
    updated.WellFormed := by
  induction path generalizing node updated with
  | nil =>
    cases succeeded
    exact wellFormed.mapContent update
  | cons pattern rest induction =>
    rw [TopicStorageNode.recursionUpdateExisting] at succeeded
    cases found : node.getLeaf pattern with
    | none => simp [found] at succeeded
    | some leaf =>
      cases outcome : leaf.recursionUpdateExisting update rest with
      | error => simp [found, outcome] at succeeded
      | ok =>
        simp only [found, outcome, Except.ok.injEq] at succeeded
        subst succeeded
        exact wellFormed.setLeaf pattern (induction (wellFormed.getLeaf found) outcome)

end TopicStorageNode

/-- A tree whose nodes have distinct leaves. -/
structure TopicTree where
  root : TopicStorageNode
  wellFormed : root.WellFormed

namespace TopicTree

def new : TopicTree where
  root := TopicStorageNode.new "/"
  wellFormed := TopicStorageNode.WellFormed.new "/"

def update (change : NodeContent → NodeContent) (path : List String)
    (tree : TopicTree) : TopicTree where
  root := tree.root.recursionUpdate change path
  wellFormed := tree.wellFormed.recursionUpdate change path

def updateExisting (change : NodeContent → NodeContent) (path : List String)
    (tree : TopicTree) : Except TopicStorageError TopicTree :=
  match outcome : tree.root.recursionUpdateExisting change path with
  | .ok root => .ok ⟨root, tree.wellFormed.recursionUpdateExisting outcome⟩
  | .error error => .error error

variable (topicPatterns : List String)

def recursionSubscribe (subscription : Subscription) :
    TopicTree → TopicTree :=
  update (.addSubscription subscription) topicPatterns

def recursionUnsubscription (topicPatterns keys : List String)
    (clientIdentifier : String) (sharedGroup : Option String) :
    TopicTree → Except TopicStorageError TopicTree :=
  updateExisting (.removeSubscriptions keys clientIdentifier sharedGroup) topicPatterns

def recursionRetainPublishPacket (publishPacket : Packet) : TopicTree → TopicTree :=
  update (.setRetainPublishMessage publishPacket) topicPatterns

def recursionCleanRetainPublishPacket :
    TopicTree → Except TopicStorageError TopicTree :=
  updateExisting .cleanRetainPublishMessage topicPatterns

variable (path : List String)

def contentAt (tree : TopicTree) : Option NodeContent :=
  tree.root.contentAt path

def contentOf (tree : TopicTree) : NodeContent :=
  (tree.contentAt path).getD .empty

theorem contentOf_new : new.contentOf path = .empty := by
  unfold contentOf contentAt new
  rw [TopicStorageNode.contentAt_new]
  split <;> rfl

theorem contentOf_update (change : NodeContent → NodeContent) (path : List String)
    (tree : TopicTree) (other : List String) :
    (tree.update change path).contentOf other =
      if other = path then change (tree.contentOf other) else tree.contentOf other := by
  unfold contentOf contentAt update
  rw [TopicStorageNode.contentAt_recursionUpdate]
  by_cases atEnd : other = path
  · simp [atEnd]
  · by_cases onWay : other <+: path
    · simp [atEnd, onWay]
    · simp [atEnd, onWay]

variable {change : NodeContent → NodeContent} {path : List String} {updated : TopicTree}

theorem contentAt_updateExisting {tree : TopicTree}
    (succeeded : tree.updateExisting change path = .ok updated) :
    (tree.contentAt path).isSome ∧ ∀ other, updated.contentAt other =
      if other = path then (tree.contentAt path).map change
      else tree.contentAt other := by
  have outcome := tree.root.recursionUpdateExisting_spec change path
  unfold updateExisting at succeeded
  split at succeeded
  · rename_i root found
    cases succeeded
    rw [found] at outcome
    exact outcome
  · cases succeeded

theorem contentOf_updateExisting {tree : TopicTree}
    (succeeded : tree.updateExisting change path = .ok updated) (other : List String) :
    updated.contentOf other =
      if other = path then change (tree.contentOf other) else tree.contentOf other := by
  have outcome := contentAt_updateExisting succeeded
  unfold contentOf
  rw [outcome.2 other]
  by_cases atEnd : other = path
  · subst atEnd
    rcases Option.isSome_iff_exists.mp outcome.1 with ⟨_, found⟩
    simp [found]
  · simp [atEnd]

end TopicTree

end YedMQ.Topic
