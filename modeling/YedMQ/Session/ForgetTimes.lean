import YedMQ.Session.PayloadReferences

/-! # Session states without their clock readings

`forgetTimes` sets the time in every inflight item to zero. Each storage operation
commutes with it when the clock is stopped at zero as well: no operation decides
anything by a stored time. Replicas with different clocks therefore differ in these
times and in nothing else.
-/

namespace YedMQ

open Foundation SessionState Inflight

namespace InflightItem

def forgetTime (item : InflightItem) : InflightItem :=
  { item with lastModified := 0 }

end InflightItem

namespace Inflight

def forgetTimes (inflight : Inflight) : Inflight :=
  { inflight with inner := inflight.inner.mapValues InflightItem.forgetTime }

variable (inflight : Inflight)
variable (packetIdentifier : UInt16)

theorem lookup_forgetTimes :
    inflight.forgetTimes.inner.lookup packetIdentifier =
      (inflight.inner.lookup packetIdentifier).map InflightItem.forgetTime :=
  HashMap.lookup_mapValues _ inflight.inner packetIdentifier

/-- Both sides after a write of one item. -/
theorem forgetTimes_insert (item : InflightItem) :
    forgetTimes { inflight with inner := inflight.inner.insert packetId item } =
      { inflight.forgetTimes with
        inner := inflight.forgetTimes.inner.insert packetId item.forgetTime } := by
  simp [forgetTimes, HashMap.mapValues_insert]

theorem forgetTimes_erase :
    forgetTimes { inflight with inner := inflight.inner.erase packetId } =
      { inflight.forgetTimes with
        inner := inflight.forgetTimes.inner.erase packetId } := by
  simp [forgetTimes, HashMap.mapValues_erase]

@[simp] theorem getAllPacketKeys_forgetTimes :
    inflight.forgetTimes.getAllPacketKeys = inflight.getAllPacketKeys := by
  rw [getAllPacketKeys_eq_total, getAllPacketKeys_eq_total]
  exact HashMap.total_mapValues (fun _ => rfl) inflight.inner

@[simp] theorem packetIdExists_forgetTimes (inflight : Inflight) :
    inflight.forgetTimes.packetIdExists packetIdentifier =
      inflight.packetIdExists packetIdentifier := by
  rw [packetIdExists, packetIdExists, lookup_forgetTimes, Option.isSome_map]

theorem forgetTimes_insertItem (now : Nat) (packetId : UInt16)
    (state : InflightState) (packetKey : String) (inflight : Inflight) :
    inflight.forgetTimes.insertItem 0 packetId state packetKey =
      (inflight.insertItem now packetId state packetKey).map forgetTimes id := by
  rw [insertItem, insertItem, lookup_forgetTimes, Prod.map_apply, forgetTimes_insert]
  cases inflight.inner.lookup packetId <;> rfl

theorem forgetTimes_registerWithRxPacket (now : Nat) (packetId : UInt16)
    (qos : UInt8) (packetKey : String) (inflight : Inflight) :
    inflight.forgetTimes.registerWithRxPacket 0 packetId qos packetKey =
      (inflight.registerWithRxPacket now packetId qos packetKey).map forgetTimes id := by
  rw [registerWithRxPacket, registerWithRxPacket]
  split
  · exact forgetTimes_insertItem now packetId _ packetKey inflight
  · split
    · exact forgetTimes_insertItem now packetId _ packetKey inflight
    · rfl

theorem forgetTimes_registerWithTxPacket (now : Nat) (packetId : UInt16)
    (qos : UInt8) (packetKey : String) (inflight : Inflight) :
    inflight.forgetTimes.registerWithTxPacket 0 packetId qos packetKey =
      (inflight.registerWithTxPacket now packetId qos packetKey).map
        (Prod.map forgetTimes id) := by
  rw [registerWithTxPacket, registerWithTxPacket, packetIdExists_forgetTimes]
  split
  · rfl
  · split
    · exact congrArg Except.ok (forgetTimes_insertItem now packetId _ packetKey inflight)
    · split
      · exact congrArg Except.ok (forgetTimes_insertItem now packetId _ packetKey inflight)
      · rfl

theorem forgetTimes_markDeliveryStarted (packetKey : String) (inflight : Inflight) :
    inflight.forgetTimes.markDeliveryStarted packetId packetKey =
      (inflight.markDeliveryStarted packetId packetKey).map forgetTimes id := by
  rw [markDeliveryStarted, markDeliveryStarted, lookup_forgetTimes]
  cases inflight.inner.lookup packetId with
  | none => rfl
  | some item =>
    by_cases owned : item.packetKey = some packetKey
    · simp only [if_pos owned, Prod.map_apply, forgetTimes_insert]
      exact if_pos owned
    · simp only [if_neg owned]
      exact if_neg owned

theorem forgetTimes_discardUnsent (packetKey : String) (inflight : Inflight) :
    inflight.forgetTimes.discardUnsent packetId packetKey =
      (inflight.discardUnsent packetId packetKey).map forgetTimes id := by
  rw [discardUnsent, discardUnsent, lookup_forgetTimes]
  cases inflight.inner.lookup packetId with
  | none => rfl
  | some =>
    dsimp only [Option.map_some]
    split
    · rename_i refused
      apply Eq.trans _ (congrArg (Prod.map forgetTimes id) (if_pos refused)).symm
      rfl
    · rename_i accepted
      apply Eq.trans _ (congrArg (Prod.map forgetTimes id) (if_neg accepted)).symm
      rw [Prod.map_apply, forgetTimes_erase]
      rfl

theorem forgetTimes_nextState (now : Nat) (packetId : UInt16) (inflight : Inflight) :
    inflight.forgetTimes.nextState 0 packetId =
      (inflight.nextState now packetId).map forgetTimes id := by
  rw [nextState, nextState, lookup_forgetTimes]
  cases inflight.inner.lookup packetId with
  | none => rfl
  | some =>
    simp only [Prod.map_apply, forgetTimes_insert]
    rfl

theorem forgetTimes_cleanFinishedItems :
    inflight.forgetTimes.cleanFinishedItems = inflight.cleanFinishedItems.map forgetTimes id := by
  have kept : (inflight.inner.retain fun _ item => item.state != .finish).mapValues
        InflightItem.forgetTime =
      (inflight.inner.mapValues InflightItem.forgetTime).retain
        fun _ item => item.state != .finish := by
    apply HashMap.mapValues_retain
    intro packetId item
    rfl
  simp only [cleanFinishedItems, Prod.map_apply, forgetTimes, kept,
    HashMap.values_mapValues, Multiset.filter_map, Multiset.filterMap_map]
  rfl

end Inflight

namespace SessionState

variable (state : SessionState)

def forgetTimes : SessionState :=
  { state with inflight := state.inflight.forgetTimes }

@[simp] theorem inflight_forgetTimes :
    state.forgetTimes.inflight = state.inflight.forgetTimes := rfl

@[simp] theorem keys_forgetTimes : state.forgetTimes.keys = state.keys := by
  simp [keys, forgetTimes]

end SessionState

namespace SessionStateStorage

def forgetTimes (storage : SessionStateStorage) : SessionStateStorage :=
  { storage with inner := storage.inner.mapRecords SessionState.forgetTimes }

@[simp] theorem heldKeys_forgetTimes (storage : SessionStateStorage) :
    storage.forgetTimes.heldKeys = storage.heldKeys :=
  NestedMap.total_mapRecords SessionState.keys_forgetTimes storage.inner

theorem forgetTimes_setDeliveryStarted (packetId : UInt16) (started : Bool) (inflight : Inflight) :
    setDeliveryStarted packetId started inflight.forgetTimes =
      (setDeliveryStarted packetId started inflight).forgetTimes := by
  rw [setDeliveryStarted, setDeliveryStarted, HashMap.modify, HashMap.modify, lookup_forgetTimes]
  cases inflight.inner.lookup packetId with
  | none => rfl
  | some =>
    rw [forgetTimes_insert]
    rfl

end SessionStateStorage

end YedMQ
