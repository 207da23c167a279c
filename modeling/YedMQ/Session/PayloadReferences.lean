import YedMQ.Session.SessionState

/-! # Payload references of the session storage

`heldKeys` lists every place that holds a payload key: each pending message and
each inflight item of each session of each tenant. `Accounts` describes what a
storage operation does to the table of reference counts, as claims gained and
claims lost. An operation keeps the table exact when the held keys gain and lose
the same.
-/

namespace YedMQ

open Foundation SessionState Inflight NestedMap

namespace SessionState

def keys (state : SessionState) : Multiset String :=
  (state.pendingMessages : Multiset String) + state.inflight.getAllPacketKeys

end SessionState

namespace SessionStateStorage

def heldKeys (storage : SessionStateStorage) : Multiset String :=
  total keys storage.inner

def ExactCounts (storage : SessionStateStorage) : Prop :=
  storage.refCounts.Represents storage.heldKeys

theorem exactCounts_new : new.ExactCounts :=
  RefCounts.Represents.empty

def replacedKeys (tenantId sessionId : String) (storage : SessionStateStorage) :
    Multiset String :=
  weightAt keys tenantId sessionId storage.inner

/-! ## Claims gained and lost -/

/-- Between two storages the table gains the claims `gained`, then loses the
claims `lost`, and nobody claims the keys in `freed` afterwards. -/
structure Accounts (before after : SessionStateStorage)
    (gained lost freed : Multiset String) : Prop where
  represents : ∀ claims, before.refCounts.Represents claims →
    after.refCounts.Represents (gained + claims - lost)
  unclaimed : ∀ claims, before.refCounts.Represents claims →
    ∀ key ∈ freed, key ∉ gained + claims - lost

namespace Accounts

variable {before middle after : SessionStateStorage}
  {gained lost freed : Multiset String}

theorem exactCounts_iff (accounts : Accounts before after gained lost freed)
    (exact : before.ExactCounts)
    (covered : lost + after.heldKeys ≤ gained + before.heldKeys) :
    after.ExactCounts ↔ lost + after.heldKeys = gained + before.heldKeys := by
  have counted := accounts.represents _ exact
  constructor
  · intro exactAfter
    rw [counted.unique exactAfter |>.symm]
    exact add_tsub_cancel_of_le (le_trans (Multiset.le_add_right _ _) covered)
  · intro balanced
    rwa [← balanced, add_tsub_cancel_left] at counted

end Accounts

def CoveringCounts (storage : SessionStateStorage) : Prop :=
  ∃ claims, storage.refCounts.Represents claims ∧ storage.heldKeys ≤ claims

theorem coveringCounts_new : new.CoveringCounts :=
  ⟨0, RefCounts.Represents.empty, le_refl _⟩

theorem Accounts.coveringCounts {before after : SessionStateStorage}
    {gained lost freed : Multiset String}
    (accounts : Accounts before after gained lost freed)
    (covered : lost + after.heldKeys ≤ gained + before.heldKeys)
    (covering : before.CoveringCounts) :
    after.CoveringCounts ∧ ∀ key ∈ freed, key ∉ after.heldKeys := by
  rcases covering with ⟨claims, represents, _⟩
  have remaining : after.heldKeys ≤ gained + claims - lost := by
    apply le_tsub_of_add_le_left
    exact le_trans covered (by gcongr)
  refine ⟨⟨_, accounts.represents claims represents, remaining⟩, ?_⟩
  intro key member held
  exact accounts.unclaimed claims represents key member (Multiset.mem_of_le remaining held)

/-! ## The books of each operation

`Accounted before after offered freed balanced` says that an operation gains claims
only on the keys in `offered`, that it never loses more claims than held keys, and
that it loses equally many exactly when `balanced`. -/

def Accounted (before after : SessionStateStorage) (offered freed : Multiset String)
    (balanced : Prop) : Prop :=
  ∃ gained lost, gained ≤ offered ∧ Accounts before after gained lost freed ∧
    lost + after.heldKeys ≤ gained + before.heldKeys ∧
    (lost + after.heldKeys = gained + before.heldKeys ↔ balanced)

namespace Accounted

variable {before after : SessionStateStorage}
  {gained lost offered freed : Multiset String} {balanced : Prop}

theorem mem_heldKeys (accounted : Accounted before after offered freed balanced)
    {key : String} (held : key ∈ after.heldKeys) :
    key ∈ before.heldKeys ∨ key ∈ offered := by
  rcases accounted with ⟨gained, _, within, _, covered, _⟩
  have member : key ∈ gained + before.heldKeys :=
    Multiset.mem_of_le covered (Multiset.mem_add.mpr (.inr held))
  rcases Multiset.mem_add.mp member with fresh | kept
  · exact .inr (Multiset.mem_of_le within fresh)
  · exact .inl kept

theorem coveringCounts (accounted : Accounted before after offered freed balanced)
    (covering : before.CoveringCounts) :
    after.CoveringCounts ∧ ∀ key ∈ freed, key ∉ after.heldKeys := by
  rcases accounted with ⟨_, _, _, accounts, covered, _⟩
  exact accounts.coveringCounts covered covering

end Accounted

theorem keys_with_inflight (state : SessionState) (inflight : Inflight) :
    keys { state with inflight := inflight } =
      (state.pendingMessages : Multiset String) + inflight.getAllPacketKeys := rfl

theorem keys_moved_inflight {state : SessionState} {inflight : Inflight}
    {gained lost : Multiset String}
    (moved : lost + inflight.getAllPacketKeys = gained + state.inflight.getAllPacketKeys) :
    lost + keys { state with inflight := inflight } = gained + state.keys := by
  rw [keys_with_inflight, keys, add_left_comm, moved, add_left_comm]

@[simp] theorem setDeliveryStarted_keys (packetId : UInt16) (started : Bool) (inflight : Inflight) :
    (setDeliveryStarted packetId started inflight).getAllPacketKeys =
      inflight.getAllPacketKeys := by
  rw [getAllPacketKeys_eq_total, getAllPacketKeys_eq_total]
  exact HashMap.total_modify_of_weight_eq _ _ _ _ fun item _ => rfl

def packetIdUsed (tenantId clientId : String) (packetId : UInt16)
    (storage : SessionStateStorage) : Bool :=
  match storage.getSessionState tenantId clientId with
  | some state => state.inflight.packetIdExists packetId
  | none => false

theorem getLast?_add_dropLast (queue : List String) :
    (queue.getLast?.toList + queue.dropLast : Multiset String) = queue := by
  rcases List.eq_nil_or_concat queue with empty | ⟨_, _, equal⟩
  · simp [empty]
  · subst equal
    simp only [List.concat_eq_append, List.getLast?_concat, List.dropLast_concat,
      Option.toList_some, add_comm, Multiset.coe_add]

end SessionStateStorage

end YedMQ
