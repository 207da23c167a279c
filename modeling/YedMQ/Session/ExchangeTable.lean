import YedMQ.Session.RepeatableUpdates

/-! # Tables of exchanges

What an inflight map says about each packet identifier, without the times. The actor of a
session and raft each keep such a map, and the operations of both come down to the same few
updates. An update acts on each identifier separately.
-/

namespace YedMQ

open Foundation

structure Exchange where
  state : InflightState
  packetKey : Option String
  deliveryStarted : Bool
deriving DecidableEq

def InflightItem.exchange (item : InflightItem) : Exchange where
  state := item.state
  packetKey := item.packetKey
  deliveryStarted := item.deliveryStarted

abbrev ExchangeTable := UInt16 → Option Exchange

def Inflight.table (inflight : Inflight) : ExchangeTable :=
  fun packetId => (inflight.inner.lookup packetId).map InflightItem.exchange

inductive ExchangeUpdate where
  | keep
  /-- Register a packet of the client in place of whatever there is. -/
  | receive (packetId : UInt16) (qos : UInt8) (packetKey : String)
  /-- Register a packet for the client if the identifier is free. -/
  | send (packetId : UInt16) (qos : UInt8) (packetKey : String) (deliveryStarted : Bool)
  | setDeliveryStarted (packetId : UInt16) (deliveryStarted : Bool)
  | markDeliveryStarted (packetId : UInt16) (packetKey : String)
  | discardUnsent (packetId : UInt16) (packetKey : String)
  | advance (packetId : UInt16)
  | clean
deriving DecidableEq

namespace Exchange

def received (qos : UInt8) (packetKey : String) : Option Exchange :=
  if qos = 2 then some ⟨.waitPubrel, some packetKey, true⟩
  else if qos = 1 then some ⟨.finish, some packetKey, true⟩
  else none

def sent (qos : UInt8) (packetKey : String) (deliveryStarted : Bool) : Option Exchange :=
  if qos = 2 then some ⟨.waitPubrec, some packetKey, deliveryStarted⟩
  else if qos = 1 then some ⟨.waitPuback, some packetKey, deliveryStarted⟩
  else none

def advance (exchange : Exchange) : Exchange :=
  { exchange with state := exchange.state.next }

def setStarted (started : Bool) (exchange : Exchange) : Exchange :=
  { exchange with deliveryStarted := started }

def markStarted (packetKey : String) (exchange : Exchange) : Exchange :=
  if exchange.packetKey = some packetKey then exchange.setStarted true else exchange

def isUnsent (packetKey : String) (exchange : Exchange) : Bool :=
  !(exchange.deliveryStarted || exchange.packetKey != some packetKey ||
    !(exchange.state == .waitPuback || exchange.state == .waitPubrec))

end Exchange

namespace ExchangeUpdate

def act (update : ExchangeUpdate) (id : UInt16) (present : Option Exchange) :
    Option Exchange :=
  match update with
  | keep => present
  | receive packetId qos packetKey =>
    if id = packetId then (Exchange.received qos packetKey).or present else present
  | send packetId qos packetKey deliveryStarted =>
    if id = packetId then present.or (Exchange.sent qos packetKey deliveryStarted)
    else present
  | setDeliveryStarted packetId deliveryStarted =>
    if id = packetId then present.map (Exchange.setStarted deliveryStarted) else present
  | markDeliveryStarted packetId packetKey =>
    if id = packetId then present.map (Exchange.markStarted packetKey) else present
  | discardUnsent packetId packetKey =>
    if id = packetId then present.filter (!Exchange.isUnsent packetKey ·) else present
  | advance packetId => if id = packetId then present.map Exchange.advance else present
  | clean => present.filter (·.state != .finish)

def apply (update : ExchangeUpdate) (table : ExchangeTable) : ExchangeTable :=
  fun id => update.act id (table id)

def packetId : ExchangeUpdate → Option UInt16
  | keep => none
  | receive packetId _ _ | send packetId _ _ _ | setDeliveryStarted packetId _
  | markDeliveryStarted packetId _ | discardUnsent packetId _ | advance packetId => some packetId
  | clean => none

theorem act_of_ne {update : ExchangeUpdate} {id other : UInt16}
    (about : update.packetId = some id) (different : other ≠ id) (present : Option Exchange) :
    update.act other present = present := by
  cases update with
  | keep | clean => cases about
  | _ =>
    cases about
    exact if_neg different

@[simp] theorem apply_keep (table : ExchangeTable) : keep.apply table = table := rfl

end ExchangeUpdate

/-! ## The operations on inflight maps -/

namespace Inflight

variable {now : Nat} {packetId : UInt16} {qos : UInt8} {packetKey : String}
variable (inflight : Inflight)

theorem table_insert (packetId : UInt16) (item : InflightItem) (id : UInt16) :
    table { inflight with inner := inflight.inner.insert packetId item } id =
      if id = packetId then some item.exchange else inflight.table id := by
  rw [table]
  rcases eq_or_ne id packetId with same | different
  · subst same
    simp
  · rw [if_neg different, Finmap.lookup_insert_of_ne _ different]
    rfl

theorem packetIdExists_eq (packetId : UInt16) :
    inflight.packetIdExists packetId = (inflight.table packetId).isSome := by
  rw [packetIdExists, table, Option.isSome_map]

theorem getInflightCurrentState_eq (packetId : UInt16) :
    inflight.getInflightCurrentState packetId = (inflight.table packetId).map Exchange.state := by
  rw [table, Option.map_map]
  rfl

theorem table_registerWithRxPacket :
    (inflight.registerWithRxPacket now packetId qos packetKey).1.table =
      (ExchangeUpdate.receive packetId qos packetKey).apply inflight.table := by
  funext id
  rw [registerWithRxPacket, ExchangeUpdate.apply, ExchangeUpdate.act, Exchange.received]
  split
  · rw [insertItem, table_insert]
    rfl
  · split
    · rw [insertItem, table_insert]
      rfl
    · split <;> rfl

theorem table_registerWithTxPacket {inflight registered : Inflight} {oldKey : Option String}
    (accepted : inflight.registerWithTxPacket now packetId qos packetKey =
      .ok (registered, oldKey)) :
    registered.table = (ExchangeUpdate.send packetId qos packetKey true).apply
      inflight.table ∧ inflight.table packetId = none := by
  rw [registerWithTxPacket] at accepted
  split at accepted
  · cases accepted
  · rename_i free
    have absent : inflight.table packetId = none := by
      rw [packetIdExists_eq] at free
      simpa using free
    refine ⟨?_, absent⟩
    funext id
    rw [ExchangeUpdate.apply, ExchangeUpdate.act, Exchange.sent]
    split at accepted
    · cases accepted
      rename_i second
      rw [table_insert]
      split
      · rename_i here
        rw [here, absent]
        rfl
      · rfl
    · rename_i second
      split at accepted
      · cases accepted
        rename_i first
        rw [table_insert]
        split
        · rename_i here
          rw [here, absent]
          rfl
        · rfl
      · cases accepted
        rename_i first
        rw [if_neg second, if_neg first, Option.or_none]
        split <;> rfl

theorem table_setDeliveryStarted (started : Bool) :
    (SessionStateStorage.setDeliveryStarted packetId started inflight).table =
      (ExchangeUpdate.setDeliveryStarted packetId started).apply inflight.table := by
  funext id
  rw [SessionStateStorage.setDeliveryStarted, ExchangeUpdate.apply, ExchangeUpdate.act, table,
    table]
  split
  · rename_i here
    subst here
    rw [HashMap.lookup_modify_self, Option.map_map, Option.map_map]
    rfl
  · rename_i elsewhere
    exact congrArg (Option.map InflightItem.exchange)
      (HashMap.lookup_modify_of_ne inflight.inner _ elsewhere)

theorem table_markDeliveryStarted :
    (inflight.markDeliveryStarted packetId packetKey).1.table =
      (ExchangeUpdate.markDeliveryStarted packetId packetKey).apply inflight.table := by
  funext id
  rw [ExchangeUpdate.apply, ExchangeUpdate.act, table, table, lookup_markDeliveryStarted]
  split
  · rw [InflightItem.markStarted, Option.map_map, Option.map_map]
    congr 1
    funext item
    by_cases owned : item.packetKey = some packetKey
    · simp [Exchange.markStarted, InflightItem.exchange, InflightItem.start,
        Exchange.setStarted, owned]
    · simp [Exchange.markStarted, InflightItem.exchange, owned]
  · rfl

theorem table_discardUnsent :
    (inflight.discardUnsent packetId packetKey).1.table =
      (ExchangeUpdate.discardUnsent packetId packetKey).apply inflight.table := by
  funext id
  rw [ExchangeUpdate.apply, ExchangeUpdate.act, table, table, lookup_discardUnsent]
  split
  · cases inflight.inner.lookup id with
    | none => rfl
    | some item =>
      simp only [Option.filter_some, Option.map_some]
      rw [show Exchange.isUnsent packetKey item.exchange = item.isUnsent packetKey from rfl]
      split <;> rfl
  · rfl

theorem table_nextState :
    (inflight.nextState now packetId).1.table =
      (ExchangeUpdate.advance packetId).apply inflight.table := by
  funext id
  rw [nextState, ExchangeUpdate.apply, ExchangeUpdate.act]
  cases present : inflight.inner.lookup packetId with
  | none =>
    dsimp only
    split
    · rename_i here
      rw [here, table, present]
      rfl
    · rfl
  | some =>
    rw [table_insert]
    split
    · rename_i here
      rw [here, table, present]
      rfl
    · rfl

theorem table_cleanFinishedItems :
    inflight.cleanFinishedItems.1.table = ExchangeUpdate.clean.apply inflight.table := by
  funext id
  rw [ExchangeUpdate.apply, ExchangeUpdate.act, table, table, lookup_cleanFinishedItems]
  cases inflight.inner.lookup id with
  | none => rfl
  | some item =>
    simp only [Option.filter_some, Option.map_some]
    rw [show item.exchange.state = item.state from rfl]
    split <;> rfl

end Inflight

end YedMQ
