import Mathlib
import YedMQ.Raft.SessionState.StateMachine

/-! # The session-state store of one replica

The log store and the state machine store of one replica, with the payload store that
they share. The log store checks that a payload is present before it appends an entry
that registers its key, and a purge of the log collects the payloads whose keys were
freed up to the purged index. The schedule of these collections is a queue in memory
with a copy on disk.

What the environment decides is an argument: failing reads and writes, the answers of
peers, the order in which a hash map is visited. A failing operation returns the store
that it leaves together with its error.
-/

namespace YedMQ.Raft.SessionState

open Foundation YedMQ

structure PayloadGcItem where
  deleteAfterLogIndex : Nat
  key : String
  payloadDeleted : Bool
deriving DecidableEq

inductive StorageError where
  | payloadMissing (key : String) (index term : Nat)
  | writeLogs
  | write
  | payloadGcColumnFamilyMissing
  | payloadSyncFailed
  | writeSnapshot
deriving DecidableEq

/-- `logs`, `lastPurgedLogId`, `snapshot` and `payloadGc` are the column families and
keys of the database, `payloads` is the payload store; the rest is in memory. -/
structure Store where
  nodeId : NodeId
  logs : HashMap Nat (Entry SessionStateRequest)
  lastPurgedLogId : Option LogId
  snapshot : Option (Snapshot SessionStateStorage)
  payloadGc : Finset (Nat × String)
  payloads : HashMap String (List UInt8)
  data : StateMachineData SessionStateStorage
  payloadGcQueue : List PayloadGcItem

namespace Store

def new (nodeId : NodeId) : Store where
  nodeId := nodeId
  logs := ∅
  lastPurgedLogId := none
  snapshot := none
  payloadGc := ∅
  payloads := ∅
  data := initial
  payloadGcQueue := []

def contains (key : String) (store : Store) : Bool :=
  (store.payloads.lookup key).isSome

/-! ## The payload store -/

def put (key : String) (bytes : List UInt8) (store : Store) : Store :=
  { store with payloads := store.payloads.insert key bytes }

def putBatch (entries : List (String × List UInt8)) (store : Store) : Store :=
  entries.foldl (fun store entry => store.put entry.1 entry.2) store

def delete (key : String) (store : Store) : Store :=
  { store with payloads := store.payloads.erase key }

/-! ## The log store -/

def lastLogId (store : Store) : Option LogId :=
  ((store.logs.lookup (store.logs.keys.sup id)).map Entry.logId).or store.lastPurgedLogId

/-- How appending one entry goes: which of the reads of the payload store answer, and
whether the write of the entry fails. -/
structure AppendFaults where
  reads : List Bool
  putFails : Bool

/-- Must the payload be at hand? The entry is new, or it overwrites an entry of another
term, or there is a gap. -/
def needPayloadCheck (lastPersistedIndex : Nat) (entry : Entry SessionStateRequest)
    (store : Store) : Bool :=
  decide (lastPersistedIndex < entry.logId.index) ||
    match store.logs.lookup entry.logId.index with
    | some existing => existing.logId.leaderId.term != entry.logId.leaderId.term
    | none => true

def found (reads : List Bool) (key : String) (store : Store) : Bool :=
  (reads.take 5).any fun answers => answers && store.contains key

def missingPayload (lastPersistedIndex : Nat) (reads : List Bool)
    (entry : Entry SessionStateRequest) (store : Store) : Option String :=
  if store.needPayloadCheck lastPersistedIndex entry then
    (registeredKey entry).filter fun key => !store.found reads key
  else
    none

def writeEntry (entry : Entry SessionStateRequest) (store : Store) : Store :=
  { store with logs := store.logs.insert entry.logId.index entry }

def appendEntries (lastPersistedIndex : Nat) (store : Store) :
    List (Entry SessionStateRequest × AppendFaults) → Store × Except StorageError Unit
  | [] => (store, .ok ())
  | (entry, faults) :: entries =>
    match store.missingPayload lastPersistedIndex faults.reads entry with
    | some key =>
      (store, .error (.payloadMissing key entry.logId.index entry.logId.leaderId.term))
    | none =>
      if faults.putFails then
        (store, .error .writeLogs)
      else
        (store.writeEntry entry).appendEntries lastPersistedIndex entries

def append (entries : List (Entry SessionStateRequest × AppendFaults)) (store : Store) :
    Store × Except StorageError Unit :=
  store.appendEntries ((store.lastLogId.map LogId.index).getD 0) entries

/-- Delete the entries from an index on. The end of the deleted range is the largest
index, which stays. -/
def truncate (logId : LogId) (fails : Bool) (store : Store) :
    Store × Except StorageError Unit :=
  if fails then
    (store, .error .writeLogs)
  else
    ({ store with
        logs := store.logs.retain fun index _ =>
          !(decide (logId.index ≤ index) && decide (index < 2 ^ 64 - 1)) },
      .ok ())

inductive RecordOutcome where
  | deleted
  | failed
  | columnFamilyMissing
deriving DecidableEq

structure GcOutcome where
  payloadDeleteFails : Bool
  record : RecordOutcome

def requeue (item : PayloadGcItem) (store : Store) : Store :=
  { store with payloadGcQueue := store.payloadGcQueue ++ [item] }

def deleteRecord (item : PayloadGcItem) (store : Store) : Store :=
  { store with
    payloadGc := store.payloadGc.erase (item.deleteAfterLogIndex, item.key) }

/-- Collect the due payloads. A payload that is gone already counts as deleted. -/
def collect (store : Store) : List PayloadGcItem → List GcOutcome → Store × Except StorageError Unit
  | [], _ => (store, .ok ())
  | item :: items, outcomes =>
    let outcome := outcomes.headD { payloadDeleteFails := false, record := .deleted }
    if !item.payloadDeleted && outcome.payloadDeleteFails then
      (store.requeue item).collect items outcomes.tail
    else
      let store := if item.payloadDeleted then store else store.delete item.key
      let item := { item with payloadDeleted := true }
      match outcome.record with
      | .columnFamilyMissing => (store, .error .payloadGcColumnFamilyMissing)
      | .failed => (store.requeue item).collect items outcomes.tail
      | .deleted => (store.deleteRecord item).collect items outcomes.tail

/-- How a purge goes: its writes to the log, and its collections in turn. -/
structure PurgeFaults where
  lastPurgedFails : Bool
  deleteRangeFails : Bool
  outcomes : List GcOutcome

def isDue (logId : LogId) (item : PayloadGcItem) : Bool :=
  decide (item.deleteAfterLogIndex ≤ logId.index)

def dropPurged (logId : LogId) (store : Store) : Store :=
  { store with
    logs := store.logs.retain fun index _ => decide (logId.index < index)
    payloadGcQueue := store.payloadGcQueue.filter fun item => !isDue logId item }

def purge (logId : LogId) (faults : PurgeFaults) (store : Store) :
    Store × Except StorageError Unit :=
  if faults.lastPurgedFails then
    (store, .error .write)
  else
    let store := { store with lastPurgedLogId := some logId }
    if faults.deleteRangeFails then
      (store, .error .writeLogs)
    else
      (store.dropPurged logId).collect (store.payloadGcQueue.filter (isDue logId)) faults.outcomes

/-! ## The state machine store -/

/-- The record on disk may fail to be written; the item in memory stays. -/
def schedulePayloadGc (logIndex : Nat) (recordFails : String → Bool) (store : Store)
    (key : String) : Store :=
  { store with
    payloadGcQueue := store.payloadGcQueue ++
      [{ deleteAfterLogIndex := logIndex, key := key, payloadDeleted := false }]
    payloadGc :=
      if recordFails key then store.payloadGc else insert (logIndex, key) store.payloadGc }

/-- What a replica meets while it applies one entry: its clock, the payloads it cannot
read, the order in which it visits freed keys, the records it fails to write. -/
structure ApplyEnvironment where
  now : Nat
  unreadable : String → Bool
  freedKeys : List String
  recordFails : String → Bool

def reading (environment : ApplyEnvironment) (store : Store) : Reading where
  now := environment.now
  payload := fun key =>
    if environment.unreadable key then none else store.payloads.lookup key

/-- One turn of the loop in `apply`: no result if applying panics, or if the
environment visits other keys than the freed ones. -/
def applyEntry (entry : Entry SessionStateRequest) (environment : ApplyEnvironment)
    (store : Store) : Option Store :=
  match store.data.applyEntry applyRequest ⟨0, .none⟩ (store.reading environment) entry with
  | .error _ => none
  | .ok (data, applied) =>
    if (environment.freedKeys : Multiset String) = applied.freed then
      some (environment.freedKeys.foldl
        (schedulePayloadGc entry.logId.index environment.recordFails)
        { store with data := data })
    else
      none

structure BulkSync where
  stored : List (String × List UInt8)
  succeeds : Bool

structure InstallEnvironment where
  unreadable : String → Bool
  bulkSync : NodeId → BulkSync
  writeFails : Bool

def missingKeys (unreadable : String → Bool) (snapshot : Snapshot SessionStateStorage)
    (store : Store) : Finset String :=
  snapshot.data.heldKeys.toFinset.filter fun key =>
    unreadable key || !store.contains key

variable (snapshot : Snapshot SessionStateStorage)

def peers (store : Store) : List NodeId :=
  (snapshot.snapshotMeta.lastMembership.membership.nodes.keys.erase store.nodeId).sort

def syncPayloads (bulkSync : NodeId → BulkSync) (store : Store) : List NodeId → Store × Bool
  | [] => (store, false)
  | node :: nodes =>
    let store := store.putBatch (bulkSync node).stored
    if (bulkSync node).succeeds then (store, true)
    else store.syncPayloads bulkSync nodes

def replaceState (store : Store) : Store :=
  { store with data := updateStateMachine snapshot }

def setCurrentSnapshot (store : Store) :
    Store :=
  { store with snapshot := some snapshot }

def installSnapshot (environment : InstallEnvironment) (store : Store) :
    Store × Except StorageError Unit :=
  let (store, synced) :=
    if store.missingKeys environment.unreadable snapshot = ∅ then
      (store, true)
    else
      store.syncPayloads environment.bulkSync (store.peers snapshot)
  if synced then
    if environment.writeFails then
      (store.replaceState snapshot, .error .writeSnapshot)
    else
      ((store.replaceState snapshot).setCurrentSnapshot snapshot, .ok ())
  else
    (store, .error .payloadSyncFailed)

/-- Open the database again. `records` are the scheduled collections that can be read
back, in the order of the iterator. -/
def newStorage (records : List (Nat × String)) (store : Store) : Option Store :=
  if ∀ record ∈ records, record ∈ store.payloadGc then
    some { store with
      data := (store.snapshot.map updateStateMachine).getD initial
      payloadGcQueue := records.map fun record =>
        { deleteAfterLogIndex := record.1, key := record.2, payloadDeleted := false } }
  else
    none

end Store

/-! ## Runs of the store -/

inductive StoreInput where
  | put (key : String) (bytes : List UInt8)
  | append (entries : List (Entry SessionStateRequest × Store.AppendFaults))
  | apply (entry : Entry SessionStateRequest) (environment : Store.ApplyEnvironment)
  | truncate (logId : LogId) (fails : Bool)
  | purge (logId : LogId) (faults : Store.PurgeFaults)
  | installSnapshot (snapshot : Snapshot SessionStateStorage)
      (environment : Store.InstallEnvironment)
  | buildSnapshot (snapshot : Snapshot SessionStateStorage)
  | restart (records : List (Nat × String))

/-- One step of the store. Errors are left out: what counts is the store behind them. -/
def Store.step (store : Store) : StoreInput → Option Store
  | .put key bytes => some (store.put key bytes)
  | .append entries => some (store.append entries).1
  | .apply entry environment => store.applyEntry entry environment
  | .truncate logId fails => some (store.truncate logId fails).1
  | .purge logId faults => some (store.purge logId faults).1
  | .installSnapshot snapshot environment =>
    some (store.installSnapshot snapshot environment).1
  | .buildSnapshot snapshot => some (store.setCurrentSnapshot snapshot)
  | .restart records => store.newStorage records

end YedMQ.Raft.SessionState
