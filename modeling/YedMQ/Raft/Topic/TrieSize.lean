import Mathlib.Algebra.Order.BigOperators.Group.Finset
import YedMQ.Raft.Topic.SubscriptionMap

/-! # The size of the trie

Unsubscriptions and cleanings empty the node at the end of their path and leave it in the
trie. The trie of a tenant has a node for every level of every filter and topic that was
ever stored in it, whether or not anything is stored there still.
-/

namespace YedMQ.Topic

mutual
def TopicStorageNode.paths : TopicStorageNode → List (List String)
  | .mk _ _ leaves => [] :: leaves.paths

def Leaves.paths : Leaves → List (List String)
  | .nil => []
  | .cons pattern leaf rest => leaf.paths.map (pattern :: ·) ++ rest.paths
end

theorem Leaves.mem_paths {path : List String} : ∀ {leaves : Leaves}, path ∈ leaves.paths ↔
    ∃ entry ∈ leaves.toList, ∃ rest ∈ entry.2.paths, entry.1 :: rest = path
  | nil => by simp [paths, toList]
  | cons pattern leaf rest => by simp [paths, toList, mem_paths]

mutual
theorem TopicStorageNode.nodup_paths : ∀ {node : TopicStorageNode},
    node.WellFormed → node.paths.Nodup
  | .mk _ _ leaves, wellFormed => by
    refine List.nodup_cons.mpr ⟨?_, Leaves.nodup_paths wellFormed⟩
    intro root
    rcases Leaves.mem_paths.mp root with ⟨_, _, _, _, same⟩
    cases same

theorem Leaves.nodup_paths : ∀ {leaves : Leaves}, leaves.WellFormed → leaves.paths.Nodup
  | .nil, _ => List.nodup_nil
  | .cons pattern leaf rest, wellFormed => by
    apply List.Nodup.append
    · exact (TopicStorageNode.nodup_paths wellFormed.2.1).map List.cons_injective
    · exact Leaves.nodup_paths wellFormed.2.2
    · intro path here later
      rcases List.mem_map.mp here with ⟨_, _, rfl⟩
      rcases Leaves.mem_paths.mp later with ⟨entry, member, _, _, same⟩
      cases same
      exact wellFormed.1 (List.mem_map_of_mem member)
end

theorem TopicStorageNode.isSome_contentAt {path : List String} {node : TopicStorageNode}
    (wellFormed : node.WellFormed) (member : path ∈ node.paths) :
    (node.contentAt path).isSome = true := by
  induction path generalizing node with
  | nil => rfl
  | cons pattern rest induction =>
    rcases node with ⟨_, _, leaves⟩
    rcases List.mem_cons.mp member with root | below
    · cases root
    · rcases Leaves.mem_paths.mp below with ⟨⟨_, leaf⟩, listed, _, inside, same⟩
      cases same
      have found := Leaves.get?_of_mem_toList wellFormed listed
      simp only [contentAt, getLeaf, TopicStorageNode.leaves, found]
      exact induction (Leaves.WellFormed.get? wellFormed found) inside

def NodeContent.uses (content : NodeContent) : Nat :=
  (if content.subscriptions = ∅ then 0 else 1) + content.retainPublishPacket.toList.length

namespace TopicStorage

variable (tenantId : String)

def nodePaths (storage : TopicStorage) : List (List String) :=
  (storage.topicTree.lookup tenantId).elim [] fun tree => tree.root.paths

def liveLevels (storage : TopicStorage) : Nat :=
  ((storage.nodePaths tenantId).map fun path =>
    path.length * (storage.content tenantId path).uses).sum

theorem nodup_nodePaths (storage : TopicStorage) : (storage.nodePaths tenantId).Nodup := by
  rw [nodePaths]
  cases storage.topicTree.lookup tenantId with
  | none => exact List.nodup_nil
  | some tree => exact TopicStorageNode.nodup_paths tree.wellFormed

theorem hasNode_of_mem {tenantId : String} {storage : TopicStorage} {path : List String}
    (member : path ∈ storage.nodePaths tenantId) : storage.hasNode tenantId path = true := by
  rw [nodePaths] at member
  cases present : storage.topicTree.lookup tenantId with
  | none =>
    rw [present] at member
    cases member
  | some tree =>
    rw [present] at member
    rw [hasNode_of_tree present]
    exact TopicStorageNode.isSome_contentAt tree.wellFormed member

end TopicStorage

end YedMQ.Topic

namespace YedMQ.Raft.Topic

open YedMQ.Topic TopicStorage TopicRequest

def storedPaths (tenantId : String) (calls : List TopicRequest) : Finset (List String) :=
  (calls.filterMap fun call => (call.createdPath.filter (·.1 = tenantId)).map Prod.snd).toFinset

theorem hasNode_performed (calls : List TopicRequest) (tenantId : String) (path : List String) :
    (performed calls).1.hasNode tenantId path = true ↔ tenantId = "public" ∧ path = [] ∨
      ∃ call ∈ (performed calls).2, call.creates tenantId path = true := by
  induction calls using List.reverseRecOn with
  | nil =>
    apply (Bool.eq_iff_iff.mp (hasNode_createTenant "public" tenantId path ⟨∅, ∅, ∅⟩)).trans
    simp [hasNode, performed]
  | append_singleton calls request induction =>
    rw [performed_concat, perform]
    split
    · rename_i next succeeded
      have acts := actsOn_call (performed_spec calls).1 succeeded
      rw [acts.node, Semantics.raise, Bool.or_eq_true, induction]
      simp [or_assoc]
    · exact induction

/-- Nodes are never removed: the trie of a tenant has the nodes on the way to every filter
and topic that was stored in it, and their number is bounded by the levels of these. -/
theorem trie_keeps_paths (calls : List TopicRequest) (tenantId : String) :
    (∀ path, (performed calls).1.hasNode tenantId path = true ↔ tenantId = "public" ∧ path = [] ∨
      ∃ call ∈ (performed calls).2, call.creates tenantId path = true) ∧
    ((performed calls).1.nodePaths tenantId).length ≤
      1 + ∑ path ∈ storedPaths tenantId (performed calls).2, path.length := by
  refine ⟨hasNode_performed calls tenantId, ?_⟩
  -- Every node but the root is a proper part of a stored path.
  have inside : ((performed calls).1.nodePaths tenantId).toFinset ⊆
      insert [] ((storedPaths tenantId (performed calls).2).biUnion fun path =>
        (Finset.range path.length).image fun depth => path.take (depth + 1)) := by
    intro path member
    have known := hasNode_of_mem (List.mem_toFinset.mp member)
    by_cases root : path = []
    · rw [root]
      exact Finset.mem_insert_self _ _
    · rcases (hasNode_performed calls tenantId path).mp known with ⟨_, same⟩ | ⟨call, done, creates⟩
      · exact absurd same root
      · rcases (Option.any_eq_true _ _).mp creates with ⟨⟨_, stored⟩, created, about⟩
        rcases of_decide_eq_true about with ⟨rfl, onWay⟩
        have positive := List.length_pos_iff.mpr root
        have bounded : path.length ≤ stored.length := onWay.length_le
        simp only [Finset.mem_insert, Finset.mem_biUnion, Finset.mem_image, Finset.mem_range]
        refine .inr ⟨stored, ?_, path.length - 1, by omega, ?_⟩
        · apply List.mem_toFinset.mpr
          exact List.mem_filterMap.mpr ⟨call, done, by simp [created]⟩
        · rw [Nat.sub_add_cancel positive]
          exact (List.prefix_iff_eq_take.mp onWay).symm
  calc ((performed calls).1.nodePaths tenantId).length
      = ((performed calls).1.nodePaths tenantId).toFinset.card :=
        (List.toFinset_card_of_nodup (nodup_nodePaths _ _)).symm
    _ ≤ 1 + ∑ path ∈ storedPaths tenantId (performed calls).2, path.length := by
        refine (Finset.card_le_card inside).trans ((Finset.card_insert_le _ _).trans ?_)
        rw [Nat.add_comm]
        refine Nat.add_le_add_left (Finset.card_biUnion_le.trans (Finset.sum_le_sum ?_)) 1
        intro path _
        exact Finset.card_image_le.trans (Finset.card_range _).le

/-- A client that unsubscribes leaves the nodes of its filter behind. -/
theorem unused_nodes_stay : ∃ calls, ¬ ((performed calls).1.nodePaths "public").length ≤
    1 + (performed calls).1.liveLevels "public" := by
  refine ⟨[.subscribeTopic "public" "client" "a/b" 0 false false,
    .unsubscribeTopic "public" "client" "a/b"], ?_⟩
  decide +kernel

end YedMQ.Raft.Topic
