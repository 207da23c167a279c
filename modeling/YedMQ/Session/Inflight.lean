import YedMQ.Foundation.HashMap
import Mathlib.Data.UInt

/-! # Inflight exchanges of one session

The map from packet identifiers to unfinished QoS 1 and QoS 2 exchanges. Both
directions share it: `registerWithRxPacket` records packets received from the
client and `registerWithTxPacket` packets sent to it. Functions that read the
system clock take the reading, in seconds since the epoch, as `now`.
-/

namespace YedMQ

open Foundation

inductive InflightError where
  | packetIdentifierHasExisted
deriving DecidableEq, Repr

inductive InflightState where
  | waitPubrel
  | waitPubcomp
  | waitPubrec
  | waitPuback
  | finish
deriving DecidableEq, Repr

structure InflightItem where
  packetIdentifier : UInt16
  state : InflightState
  packetKey : Option String
  lastModified : Nat
  deliveryStarted : Bool
deriving DecidableEq

namespace InflightState

def next : InflightState → InflightState
  | waitPubrel => finish
  | waitPubcomp => finish
  | waitPubrec => waitPubcomp
  | waitPuback => finish
  | finish => finish

end InflightState

namespace InflightItem

def toNext (now : Nat) (item : InflightItem) : InflightItem :=
  { item with state := item.state.next, lastModified := now }

end InflightItem

structure Inflight where
  inner : HashMap UInt16 InflightItem
  expiredDuration : Nat
deriving DecidableEq

namespace Inflight

def new (expiredDuration : Nat) : Inflight where
  inner := ∅
  expiredDuration := expiredDuration

def getAllPacketKeys (inflight : Inflight) : Multiset String :=
  inflight.inner.values.filterMap InflightItem.packetKey

/-- Put a fresh item at an identifier and return the payload key of the item
that stood there. Every registration writes its item this way. -/
def insertItem (now : Nat) (packetIdentifier : UInt16) (state : InflightState)
    (packetKey : String) (inflight : Inflight) : Inflight × Option String :=
  ({ inflight with
      inner := inflight.inner.insert packetIdentifier
        { packetIdentifier := packetIdentifier
          state := state
          packetKey := some packetKey
          lastModified := now
          deliveryStarted := true } },
    (inflight.inner.lookup packetIdentifier).bind InflightItem.packetKey)

def registerWithRxPacket (now : Nat) (packetIdentifier : UInt16) (qos : UInt8)
    (packetKey : String) (inflight : Inflight) : Inflight × Option String :=
  if qos = 2 then
    inflight.insertItem now packetIdentifier .waitPubrel packetKey
  else if qos = 1 then
    inflight.insertItem now packetIdentifier .finish packetKey
  else
    (inflight, none)

def packetIdExists (packetIdentifier : UInt16) (inflight : Inflight) : Bool :=
  (inflight.inner.lookup packetIdentifier).isSome

def registerWithTxPacket (now : Nat) (packetIdentifier : UInt16) (qos : UInt8)
    (packetKey : String) (inflight : Inflight) :
    Except InflightError (Inflight × Option String) :=
  if inflight.packetIdExists packetIdentifier then
    .error .packetIdentifierHasExisted
  else if qos = 2 then
    .ok (inflight.insertItem now packetIdentifier .waitPubrec packetKey)
  else if qos = 1 then
    .ok (inflight.insertItem now packetIdentifier .waitPuback packetKey)
  else
    .ok (inflight, none)

def getCurrentPacketKey (packetIdentifier : UInt16) (inflight : Inflight) :
    Option String :=
  (inflight.inner.lookup packetIdentifier).bind InflightItem.packetKey

def getInflightCurrentState (packetIdentifier : UInt16) (inflight : Inflight) :
    Option InflightState :=
  (inflight.inner.lookup packetIdentifier).map InflightItem.state

def allocatePacketId (inflight : Inflight) : Option UInt16 :=
  ((List.range' 1 65535).map UInt16.ofNat).find? fun packetIdentifier =>
    !inflight.packetIdExists packetIdentifier

def markDeliveryStarted (packetIdentifier : UInt16) (packetKey : String)
    (inflight : Inflight) : Inflight × Bool :=
  match inflight.inner.lookup packetIdentifier with
  | some item =>
    if item.packetKey = some packetKey then
      ({ inflight with
          inner := inflight.inner.insert packetIdentifier
            { item with deliveryStarted := true } }, true)
    else
      (inflight, false)
  | none => (inflight, false)

def discardUnsent (packetIdentifier : UInt16) (packetKey : String)
    (inflight : Inflight) : Inflight × Option String :=
  match inflight.inner.lookup packetIdentifier with
  | some item =>
    if item.deliveryStarted || item.packetKey != some packetKey ||
        !(item.state == .waitPuback || item.state == .waitPubrec) then
      (inflight, none)
    else
      ({ inflight with inner := inflight.inner.erase packetIdentifier }, item.packetKey)
  | none => (inflight, none)

def nextState (now : Nat) (packetIdentifier : UInt16) (inflight : Inflight) :
    Inflight × Option String :=
  match inflight.inner.lookup packetIdentifier with
  | some item =>
    ({ inflight with
        inner := inflight.inner.insert packetIdentifier (item.toNext now) },
      if (item.toNext now).state = .finish then item.packetKey else none)
  | none => (inflight, none)

def cleanFinishedItems (inflight : Inflight) : Inflight × Multiset String :=
  ({ inflight with
      inner := inflight.inner.retain fun _ item => item.state != .finish },
    (inflight.inner.values.filter fun item => item.state = .finish).filterMap
      InflightItem.packetKey)

/-! ## Payload keys

What each operation does to the multiset of payload keys. -/

theorem getAllPacketKeys_eq_total (inflight : Inflight) :
    inflight.getAllPacketKeys =
      inflight.inner.total fun item => (item.packetKey.toList : Multiset String) := by
  change inflight.inner.values.filterMap InflightItem.packetKey = inflight.inner.values.bind _
  induction inflight.inner.values using Multiset.induction with
  | empty => rfl
  | cons item items induction =>
    rw [Multiset.cons_bind, ← induction]
    cases present : item.packetKey with
    | none => simp [Multiset.filterMap_cons_none _ _ present]
    | some =>
      rw [Multiset.filterMap_cons_some _ _ _ present]
      rfl

theorem insertItem_keys (now : Nat) (packetId : UInt16)
    (state : InflightState) (packetKey : String) (inflight : Inflight) :
    ((inflight.insertItem now packetId state packetKey).2.toList +
        (inflight.insertItem now packetId state packetKey).1.getAllPacketKeys :
        Multiset String) =
      packetKey ::ₘ inflight.getAllPacketKeys := by
  rw [getAllPacketKeys_eq_total, getAllPacketKeys_eq_total]
  cases present : inflight.inner.lookup packetId with
  | none =>
    simp [insertItem, present, HashMap.total_insert_of_lookup_eq_none]
  | some =>
    simp only [insertItem, present]
    exact HashMap.total_insert_of_lookup_eq_some
      (fun item : InflightItem => (item.packetKey.toList : Multiset String)) _ present

def Tracked (qos : UInt8) : Prop :=
  qos = 1 ∨ qos = 2

instance (qos : UInt8) : Decidable (Tracked qos) :=
  inferInstanceAs (Decidable (_ ∨ _))

variable {qos : UInt8}

theorem registerWithRxPacket_keys (tracked : Tracked qos) (now : Nat) (packetId : UInt16)
    (packetKey : String) (inflight : Inflight) :
    ((inflight.registerWithRxPacket now packetId qos packetKey).2.toList +
        (inflight.registerWithRxPacket now packetId qos
          packetKey).1.getAllPacketKeys : Multiset String) =
      packetKey ::ₘ inflight.getAllPacketKeys := by
  rcases tracked with equal | equal
  · subst equal
    exact insertItem_keys now packetId .finish packetKey inflight
  · subst equal
    exact insertItem_keys now packetId .waitPubrel packetKey inflight

theorem registerWithRxPacket_of_not_tracked (untracked : ¬ Tracked qos) (now : Nat)
    (packetId : UInt16) (packetKey : String) (inflight : Inflight) :
    inflight.registerWithRxPacket now packetId qos packetKey = (inflight, none) := by
  unfold registerWithRxPacket
  rw [if_neg fun equal => untracked (.inr equal), if_neg fun equal => untracked (.inl equal)]

variable {now : Nat} {packetIdentifier : UInt16} {packetKey : String}
  {inflight registered : Inflight} {oldKey : Option String}

theorem registerWithTxPacket_keys (tracked : Tracked qos)
    (accepted : inflight.registerWithTxPacket now packetId qos packetKey =
      .ok (registered, oldKey)) :
    (oldKey.toList + registered.getAllPacketKeys : Multiset String) =
      packetKey ::ₘ inflight.getAllPacketKeys := by
  unfold registerWithTxPacket at accepted
  split at accepted
  · cases accepted
  · rcases tracked with equal | equal
    · subst equal
      cases accepted
      exact insertItem_keys now packetId .waitPuback packetKey inflight
    · subst equal
      cases accepted
      exact insertItem_keys now packetId .waitPubrec packetKey inflight

theorem registerWithTxPacket_of_not_tracked (untracked : ¬ Tracked qos)
    (accepted : inflight.registerWithTxPacket now packetId qos packetKey =
      .ok (registered, oldKey)) : registered = inflight ∧ oldKey = none := by
  unfold registerWithTxPacket at accepted
  split at accepted
  · cases accepted
  · rw [if_neg fun equal => untracked (.inr equal),
      if_neg fun equal => untracked (.inl equal)] at accepted
    cases accepted
    exact ⟨rfl, rfl⟩

/-- An outbound registration fails exactly when the identifier is in use. -/
theorem registerWithTxPacket_eq_error_iff :
    (∃ error, inflight.registerWithTxPacket now packetId qos packetKey =
      .error error) ↔ inflight.packetIdExists packetId = true := by
  unfold registerWithTxPacket
  by_cases used : inflight.packetIdExists packetId = true
  · exact iff_of_true ⟨_, if_pos used⟩ used
  · by_cases second : qos = 2
    · simp [used, second]
    · by_cases first : qos = 1
      · simp [used, first]
      · simp [used, first, second]

/-- An overwrite that keeps the payload key keeps the multiset of keys. -/
theorem getAllPacketKeys_insert_of_packetKey_eq {item replacement : InflightItem}
    (present : inflight.inner.lookup packetId = some item)
    (sameKey : replacement.packetKey = item.packetKey) :
    getAllPacketKeys { inflight with
        inner := inflight.inner.insert packetId replacement } =
      inflight.getAllPacketKeys := by
  rw [getAllPacketKeys_eq_total, getAllPacketKeys_eq_total]
  have exchanged := HashMap.total_insert_of_lookup_eq_some
    (fun item : InflightItem => (item.packetKey.toList : Multiset String))
    replacement present
  simpa only [sameKey, add_right_inj] using exchanged

@[simp] theorem markDeliveryStarted_keys (packetId : UInt16)
    (packetKey : String) (inflight : Inflight) :
    (inflight.markDeliveryStarted packetId packetKey).1.getAllPacketKeys =
      inflight.getAllPacketKeys := by
  unfold markDeliveryStarted
  cases present : inflight.inner.lookup packetId with
  | none => rfl
  | some item =>
    dsimp only
    by_cases owned : item.packetKey = some packetKey
    · rw [if_pos owned]
      exact getAllPacketKeys_insert_of_packetKey_eq present rfl
    · rw [if_neg owned]

@[simp] theorem nextState_keys (now : Nat) (packetId : UInt16) (inflight : Inflight) :
    (inflight.nextState now packetId).1.getAllPacketKeys =
      inflight.getAllPacketKeys := by
  unfold nextState
  cases present : inflight.inner.lookup packetId with
  | none => rfl
  | some => exact getAllPacketKeys_insert_of_packetKey_eq present rfl

theorem discardUnsent_keys (packetId : UInt16) (packetKey : String) (inflight : Inflight) :
    ((inflight.discardUnsent packetId packetKey).2.toList +
        (inflight.discardUnsent packetId packetKey).1.getAllPacketKeys :
        Multiset String) =
      inflight.getAllPacketKeys := by
  unfold discardUnsent
  cases present : inflight.inner.lookup packetId with
  | none => simp
  | some item =>
    dsimp only
    split
    · simp
    · rw [getAllPacketKeys_eq_total, getAllPacketKeys_eq_total]
      exact HashMap.total_erase_of_lookup_eq_some
        (fun item : InflightItem => (item.packetKey.toList : Multiset String)) present

theorem cleanFinishedItems_keys (inflight : Inflight) :
    inflight.cleanFinishedItems.2 + inflight.cleanFinishedItems.1.getAllPacketKeys =
      inflight.getAllPacketKeys := by
  simp only [cleanFinishedItems, getAllPacketKeys, HashMap.values_retain]
  rw [← Multiset.filter_add_not (fun item : InflightItem => item.state = .finish)
    inflight.inner.values]
  simp

/-! ## Clock readings

Which operations write the clock, and where. -/

def timestamp (packetIdentifier : UInt16) (inflight : Inflight) : Option Nat :=
  (inflight.inner.lookup packetIdentifier).map InflightItem.lastModified

@[simp] theorem timestamp_insertItem (now : Nat) (packetId : UInt16)
    (state : InflightState) (packetKey : String) (inflight : Inflight) :
    (inflight.insertItem now packetId state packetKey).1.timestamp
      packetId = some now := by
  simp [timestamp, insertItem]

theorem timestamp_registerWithRxPacket (tracked : Tracked qos) (now : Nat)
    (packetId : UInt16) (packetKey : String) (inflight : Inflight) :
    (inflight.registerWithRxPacket now packetId qos packetKey).1.timestamp
      packetId = some now := by
  rcases tracked with equal | equal
  · subst equal
    exact timestamp_insertItem now packetId .finish packetKey inflight
  · subst equal
    exact timestamp_insertItem now packetId .waitPubrel packetKey inflight

theorem timestamp_registerWithTxPacket (tracked : Tracked qos)
    (accepted : inflight.registerWithTxPacket now packetId qos packetKey =
      .ok (registered, oldKey)) :
    registered.timestamp packetId = some now := by
  unfold registerWithTxPacket at accepted
  split at accepted
  · cases accepted
  · rcases tracked with equal | equal
    · subst equal
      cases accepted
      exact timestamp_insertItem now packetId .waitPuback packetKey inflight
    · subst equal
      cases accepted
      exact timestamp_insertItem now packetId .waitPubrec packetKey inflight

/-- A refused or untracked outbound registration does not read the clock. -/
theorem registerWithTxPacket_now
    (unstamped : ¬ (¬ inflight.packetIdExists packetId = true ∧ Tracked qos))
    (first second : Nat) :
    inflight.registerWithTxPacket first packetId qos packetKey =
      inflight.registerWithTxPacket second packetId qos packetKey := by
  unfold registerWithTxPacket
  by_cases used : inflight.packetIdExists packetId = true
  · simp [used]
  · have untracked : ¬ Tracked qos := fun tracked => unstamped ⟨used, tracked⟩
    rw [if_neg used, if_neg used, if_neg fun equal => untracked (.inr equal),
      if_neg fun equal => untracked (.inl equal),
      if_neg fun equal => untracked (.inr equal),
      if_neg fun equal => untracked (.inl equal)]

theorem timestamp_nextState (used : inflight.packetIdExists packetId = true) (now : Nat) :
    (inflight.nextState now packetId).1.timestamp packetId = some now := by
  rcases Option.isSome_iff_exists.mp used with ⟨_, present⟩
  simp [nextState, present, timestamp, InflightItem.toNext]

theorem nextState_of_unused (unused : ¬ inflight.packetIdExists packetId = true) (now : Nat) :
    inflight.nextState now packetId = (inflight, none) := by
  have absent : inflight.inner.lookup packetId = none := by
    simpa [packetIdExists] using unused
  simp [nextState, absent]

end Inflight

end YedMQ
