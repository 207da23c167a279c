import YedMQ.Raft.SessionState.CommittedLog
import YedMQ.Raft.SessionState.Store

/-! # Payloads stay as long as they are referenced

Along every run of a replica's store, each payload key that the applied state holds or
that an entry of the log registers is present in the payload store.

The argument follows a key from its registration to its collection. The append barrier
brings the payload before the entry. A key is scheduled for collection at the index of
the entry that freed it, and a purge reaches that index only after a snapshot has passed
it. By then no state that the replica can return to holds the key, and the entries that
registered it are purged as well.
-/

namespace YedMQ.Raft.SessionState

open Foundation Semantics YedMQ SessionStateStorage

namespace Store

def snapshotIndex (store : Store) : Nat :=
  (store.snapshot.map fun snapshot => nextIndex (updateStateMachine snapshot)).getD 0

def Scheduled (index : Nat) (key : String) (store : Store) : Prop :=
  (∃ item ∈ store.payloadGcQueue, item.deleteAfterLogIndex = index ∧ item.key = key) ∨
    (index, key) ∈ store.payloadGc

/-! ## What the surroundings of the store guarantee -/

/-- An entry may be written: an entry of the same index and term is the same entry, and
no key is registered after an index where it was freed. -/
def EntryAllowed (entry : Entry SessionStateRequest) (store : Store) : Prop :=
  (∀ existing, store.logs.lookup entry.logId.index = some existing →
    existing.logId.leaderId.term = entry.logId.leaderId.term → existing = entry) ∧
  ∀ key, registeredKey entry = some key →
    ∀ index, store.Scheduled index key → entry.logId.index ≤ index

def AppendAllowed (store : Store) : List (Entry SessionStateRequest × AppendFaults) → Prop
  | [] => True
  | (entry, _) :: entries =>
    store.EntryAllowed entry ∧ (store.writeEntry entry).AppendAllowed entries

def SyncAllowed (snapshot : Snapshot SessionStateStorage)
    (environment : InstallEnvironment) (store : Store) : Prop :=
  ∀ node, (environment.bulkSync node).succeeds = true →
    ∀ key ∈ store.missingKeys environment.unreadable snapshot,
      key ∈ (environment.bulkSync node).stored.map Prod.fst ∨ store.contains key = true

/-- What Raft, the peers and the choice of keys guarantee for each step. Entries are
applied from the log in committed order. A snapshot holds the committed state at its
index, and the log is not purged past the stored snapshot. No entry registers a key
again that was freed at a smaller index. -/
def Allowed (log : CommittedLog) (store : Store) : StoreInput → Prop
  | .put _ _ => True
  | .append entries => store.AppendAllowed entries
  | .apply entry environment =>
    entry = log.entry (nextIndex store.data) ∧
    store.logs.lookup (nextIndex store.data) = some entry ∧
    ∀ key ∈ environment.freedKeys, ∀ later other, nextIndex store.data < later →
      store.logs.lookup later = some other → registeredKey other ≠ some key
  | .truncate _ _ => True
  | .purge logId _ => logId.index < store.snapshotIndex
  | .installSnapshot snapshot environment =>
    log.Holds (updateStateMachine snapshot) ∧
    store.SyncAllowed snapshot environment ∧
    (environment.writeFails = true → store.snapshotIndex ≤ nextIndex (updateStateMachine snapshot))
  | .buildSnapshot snapshot =>
    log.Holds (updateStateMachine snapshot) ∧
    nextIndex (updateStateMachine snapshot) = nextIndex store.data
  | .restart _ => True

/-! ## The invariant -/

structure PayloadsPresent (store : Store) : Prop where
  held : ∀ key ∈ store.data.state.heldKeys, store.contains key = true
  logged : ∀ index entry, store.logs.lookup index = some entry →
    ∀ key, registeredKey entry = some key → store.contains key = true

/-- A key is freed at an index, and no later entry of the log registers it. -/
def FreedForGood (log : CommittedLog) (index : Nat) (key : String) (store : Store) : Prop :=
  key ∈ log.freedAt index ∧ ∀ later entry, index < later →
    store.logs.lookup later = some entry → registeredKey entry ≠ some key

/-- The invariant of a run. What can be restored counts like what is in memory, and a
scheduled key is freed for good. -/
structure Sound (log : CommittedLog) (store : Store) : Prop extends store.PayloadsPresent where
  holds : log.Holds store.data
  snapshotHolds : ∀ snapshot, store.snapshot = some snapshot →
    log.Holds (updateStateMachine snapshot)
  snapshotBehind : store.snapshotIndex ≤ nextIndex store.data
  heldBySnapshot : ∀ snapshot, store.snapshot = some snapshot →
    ∀ key ∈ snapshot.data.heldKeys, store.contains key = true
  freed : ∀ index key, store.Scheduled index key → store.FreedForGood log index key

variable {log : CommittedLog} {store : Store}

theorem sound_new (log : CommittedLog) (nodeId : NodeId) : (new nodeId).Sound log where
  held := nofun
  logged := nofun
  holds := CommittedLog.holds_initial
  snapshotHolds := nofun
  snapshotBehind := Nat.zero_le _
  heldBySnapshot := nofun
  freed := by
    rintro index key (⟨item, member, _⟩ | record)
    · cases member
    · cases record

/-! ## Payloads come -/

theorem contains_put (key : String) (bytes : List UInt8) (store : Store) (other : String) :
    (store.put key bytes).contains other = (decide (other = key) || store.contains other) := by
  rw [contains, contains, put]
  rcases eq_or_ne other key with same | different
  · subst same
    simp
  · simp [different]

variable {next : Store}

/-- Adding payloads and dropping entries, queue items and records does no harm, and neither does
scheduling a key that is freed for good. -/
theorem Sound.drop (sound : store.Sound log) (sameData : next.data = store.data)
    (sameSnapshot : next.snapshot = store.snapshot)
    (kept : ∀ key, store.contains key = true → next.contains key = true)
    (fewerLogs : ∀ index entry, next.logs.lookup index = some entry →
      store.logs.lookup index = some entry)
    (scheduled : ∀ index key, next.Scheduled index key →
      store.Scheduled index key ∨ store.FreedForGood log index key) :
    next.Sound log where
  held key member := kept key (sound.held key (sameData ▸ member))
  logged index entry present key registered :=
    kept key (sound.logged index entry (fewerLogs index entry present) key registered)
  holds := sameData ▸ sound.holds
  snapshotHolds := sameSnapshot ▸ sound.snapshotHolds
  snapshotBehind := by
    rw [snapshotIndex, sameSnapshot, sameData]
    exact sound.snapshotBehind
  heldBySnapshot snapshot present key member :=
    kept key (sound.heldBySnapshot snapshot (sameSnapshot ▸ present) key member)
  freed := by
    intro index key due
    have freed := (scheduled index key due).elim (sound.freed index key) id
    refine ⟨freed.1, ?_⟩
    intro later entry after present
    exact freed.2 later entry after (fewerLogs later entry present)

theorem Sound.put (sound : store.Sound log) (key : String) (bytes : List UInt8) :
    (store.put key bytes).Sound log := by
  refine sound.drop rfl rfl ?_ (fun _ _ => id) fun _ _ => .inl
  intro other present
  rw [contains_put, present, Bool.or_true]

theorem Sound.putBatch (sound : store.Sound log) (entries : List (String × List UInt8)) :
    (store.putBatch entries).Sound log := by
  induction entries generalizing store with
  | nil => exact sound
  | cons entry entries induction => exact induction (sound.put entry.1 entry.2)

theorem contains_putBatch (entries : List (String × List UInt8)) (store : Store) (key : String) :
    (store.putBatch entries).contains key = true ↔
      key ∈ entries.map Prod.fst ∨ store.contains key = true := by
  induction entries generalizing store with
  | nil => simp [Store.putBatch]
  | cons entry entries induction =>
    have rest := induction (store.put entry.1 entry.2)
    rw [contains_put, Bool.or_eq_true, decide_eq_true_iff] at rest
    rw [List.map_cons, List.mem_cons, or_assoc, or_left_comm]
    exact rest

theorem snapshot_putBatch (entries : List (String × List UInt8)) (store : Store) :
    (store.putBatch entries).snapshot = store.snapshot := by
  induction entries generalizing store with
  | nil => rfl
  | cons entry entries induction => exact induction (store.put entry.1 entry.2)

/-! ## The log grows -/

variable {reads : List Bool} {key : String}

theorem contains_of_found (found : store.found reads key = true) : store.contains key = true := by
  rcases List.any_eq_true.mp found with ⟨_, _, present⟩
  exact (Bool.and_eq_true_iff.mp present).2

variable {entry : Entry SessionStateRequest}

/-- The payload of an entry that passes the barrier is present: it was found, or the
same entry is in the log already. -/
theorem Sound.contains_of_barrier (sound : store.Sound log) {lastPersistedIndex : Nat}
    (allowed : store.EntryAllowed entry)
    (passed : store.missingPayload lastPersistedIndex reads entry = none)
    (registered : registeredKey entry = some key) :
    store.contains key = true := by
  rw [missingPayload] at passed
  split at passed
  · rw [registered, Option.filter_eq_none_iff] at passed
    apply contains_of_found
    simpa using passed key rfl
  · rename_i unchecked
    cases present : store.logs.lookup entry.logId.index with
    | none =>
      rw [needPayloadCheck, present] at unchecked
      simp at unchecked
    | some existing =>
      rw [needPayloadCheck, present] at unchecked
      have sameTerm : existing.logId.leaderId.term = entry.logId.leaderId.term := by
        simp at unchecked
        exact unchecked.2
      have same := allowed.1 existing present sameTerm
      subst same
      exact sound.logged _ _ present key registered

theorem Sound.writeEntry (sound : store.Sound log) (allowed : store.EntryAllowed entry)
    (atHand : ∀ key, registeredKey entry = some key → store.contains key = true) :
    (store.writeEntry entry).Sound log := by
  have written : ∀ index other, (store.writeEntry entry).logs.lookup index = some other →
      index = entry.logId.index ∧ other = entry ∨ store.logs.lookup index = some other := by
    intro index other present
    rcases eq_or_ne index entry.logId.index with same | different
    · subst same
      rw [Store.writeEntry, Finmap.lookup_insert] at present
      exact .inl ⟨rfl, (Option.some.inj present).symm⟩
    · rw [Store.writeEntry, Finmap.lookup_insert_of_ne _ different] at present
      exact .inr present
  exact { sound with
    logged := by
      intro index other present key registered
      rcases written index other present with ⟨_, same⟩ | older
      · subst same
        exact atHand key registered
      · exact sound.logged index other older key registered
    freed := by
      intro index key scheduled
      have freed := sound.freed index key scheduled
      refine ⟨freed.1, ?_⟩
      intro later other after present registered
      rcases written later other present with ⟨_, same⟩ | older
      · subst same
        have bound := allowed.2 key registered index scheduled
        omega
      · exact freed.2 later other after older registered }

theorem Sound.appendEntries (sound : store.Sound log) (lastPersistedIndex : Nat)
    (entries : List (Entry SessionStateRequest × AppendFaults))
    (allowed : store.AppendAllowed entries) :
    (store.appendEntries lastPersistedIndex entries).1.Sound log := by
  induction entries generalizing store with
  | nil => exact sound
  | cons head entries induction =>
    rcases head with ⟨entry, faults⟩
    rw [Store.appendEntries]
    cases passed : store.missingPayload lastPersistedIndex faults.reads entry with
    | some => exact sound
    | none =>
      dsimp only
      split
      · exact sound
      · apply induction _ allowed.2
        apply sound.writeEntry allowed.1
        intro key registered
        exact sound.contains_of_barrier allowed.1 passed registered

/-! ## The log shrinks -/

variable {index : Nat}

theorem lookup_of_lookup_retain {keep : Nat → Entry SessionStateRequest → Bool}
    {logs : HashMap Nat (Entry SessionStateRequest)}
    (present : (logs.retain keep).lookup index = some entry) :
    logs.lookup index = some entry ∧ keep index entry = true := by
  rw [HashMap.lookup_retain, Option.filter_eq_some_iff] at present
  exact present

theorem Sound.truncate (sound : store.Sound log) (logId : LogId) (fails : Bool) :
    (store.truncate logId fails).1.Sound log := by
  rw [Store.truncate]
  split
  · exact sound
  · refine sound.drop rfl rfl (fun _ => id) ?_ fun _ _ => .inl
    intro index entry present
    exact (lookup_of_lookup_retain present).1

/-! ## Payloads go -/

/-- A payload may be collected: its key was freed before the stored snapshot, and no
entry of the log registers it. -/
structure Collectable (log : CommittedLog) (store : Store) (item : PayloadGcItem) : Prop where
  freed : item.key ∈ log.freedAt item.deleteAfterLogIndex
  passed : item.deleteAfterLogIndex < store.snapshotIndex
  notLogged : ∀ index entry, store.logs.lookup index = some entry →
    registeredKey entry ≠ some item.key

variable {item : PayloadGcItem}

theorem Collectable.notMem_heldKeys (noReuse : log.NoReuse)
    (collectable : store.Collectable log item) {data : StateMachineData SessionStateStorage}
    (holds : log.Holds data) (reached : store.snapshotIndex ≤ nextIndex data) :
    item.key ∉ data.state.heldKeys := by
  have later : item.deleteAfterLogIndex < nextIndex data :=
    lt_of_lt_of_le collectable.passed reached
  have absent := CommittedLog.notMem_heldKeys_of_freedAt noReuse collectable.freed later holds
  rwa [forgetTimes, heldKeys_forgetTimes] at absent

theorem contains_delete {other : String} (different : other ≠ key) :
    (store.delete key).contains other = store.contains other := by
  rw [contains, contains, delete, Finmap.lookup_erase_ne different]

theorem Sound.delete (noReuse : log.NoReuse) (sound : store.Sound log)
    (collectable : store.Collectable log item) :
    (store.delete item.key).Sound log := by
  have kept : ∀ key, key ≠ item.key → store.contains key = true →
      (store.delete item.key).contains key = true := by
    intro key different present
    rw [contains_delete different, present]
  exact { sound with
    held := by
      intro key member
      apply kept key _ (sound.held key member)
      intro same
      subst same
      exact collectable.notMem_heldKeys noReuse sound.holds sound.snapshotBehind member
    logged := by
      intro index entry present key registered
      apply kept key _ (sound.logged index entry present key registered)
      intro same
      subst same
      exact collectable.notLogged index entry present registered
    heldBySnapshot := by
      intro snapshot present key member
      apply kept key _ (sound.heldBySnapshot snapshot present key member)
      intro same
      subst same
      apply collectable.notMem_heldKeys noReuse (sound.snapshotHolds snapshot present) _ member
      have stored : store.snapshot = some snapshot := present
      rw [snapshotIndex, stored, Option.map_some, Option.getD_some] }

theorem scheduled_requeue :
    (store.requeue item).Scheduled index key ↔
      store.Scheduled index key ∨ item.deleteAfterLogIndex = index ∧ item.key = key := by
  simp only [Scheduled, requeue, List.mem_append, List.mem_singleton]
  constructor
  · rintro (⟨other, member | same, matching⟩ | record)
    · exact .inl (.inl ⟨other, member, matching⟩)
    · exact .inr (same ▸ matching)
    · exact .inl (.inr record)
  · rintro ((⟨other, member, matching⟩ | record) | matching)
    · exact .inl ⟨other, .inl member, matching⟩
    · exact .inr record
    · exact .inl ⟨item, .inr rfl, matching⟩

theorem Sound.requeue (sound : store.Sound log) (collectable : store.Collectable log item) :
    (store.requeue item).Sound log := by
  refine sound.drop rfl rfl (fun _ => id) (fun _ _ => id) ?_
  intro index key scheduled
  rcases scheduled_requeue.mp scheduled with older | ⟨rfl, rfl⟩
  · exact .inl older
  · exact .inr ⟨collectable.freed, fun later entry _ => collectable.notLogged later entry⟩

theorem Sound.deleteRecord (sound : store.Sound log) (item : PayloadGcItem) :
    (store.deleteRecord item).Sound log := by
  refine sound.drop rfl rfl (fun _ => id) (fun _ _ => id) ?_
  rintro index key (queued | record)
  · exact .inl (.inl queued)
  · exact .inl (.inr (Finset.mem_of_mem_erase record))

/-- Collecting touches neither the log nor the stored snapshot, so what is collectable
at first stays so until its turn. -/
theorem Sound.collect (noReuse : log.NoReuse) (items : List PayloadGcItem)
    (outcomes : List GcOutcome) (sound : store.Sound log)
    (collectable : ∀ item ∈ items, store.Collectable log item) :
    (store.collect items outcomes).1.Sound log := by
  induction items generalizing store outcomes with
  | nil => exact sound
  | cons item items induction =>
    have first := collectable item List.mem_cons_self
    have rest : ∀ other ∈ items, store.Collectable log other := fun other member =>
      collectable other (List.mem_cons_of_mem item member)
    rw [Store.collect]
    split
    · apply induction _ (sound.requeue first)
      intro other member
      exact ⟨(rest other member).freed, (rest other member).passed, (rest other member).notLogged⟩
    · -- The payload is gone; only its record may have to wait.
      have deleted : (if item.payloadDeleted = true then store
          else store.delete item.key).Sound log := by
        split
        · exact sound
        · exact sound.delete noReuse first
      have carried : ∀ other, store.Collectable log other →
          (if item.payloadDeleted = true then store
            else store.delete item.key).Collectable log other := by
        intro other collectable
        split
        · exact collectable
        · exact { collectable with }
      dsimp only
      split
      · exact deleted
      · have waiting : (if item.payloadDeleted = true then store
            else store.delete item.key).Collectable log
              { item with payloadDeleted := true } :=
          ⟨(carried item first).freed, (carried item first).passed, (carried item first).notLogged⟩
        apply induction _ (deleted.requeue waiting)
        intro other member
        have later := carried other (rest other member)
        exact { later with }
      · apply induction _ (deleted.deleteRecord _)
        intro other member
        have later := carried other (rest other member)
        exact { later with }

theorem Sound.purge (noReuse : log.NoReuse) (sound : store.Sound log) {logId : LogId}
    (bounded : logId.index < store.snapshotIndex) (faults : PurgeFaults) :
    (store.purge logId faults).1.Sound log := by
  rw [Store.purge]
  split
  · exact sound
  · have marked : Sound log { store with lastPurgedLogId := some logId } :=
      sound.drop rfl rfl (fun _ => id) (fun _ _ => id) fun _ _ => .inl
    split
    · exact marked
    · have dropped : Sound log (dropPurged logId { store with lastPurgedLogId := some logId }) := by
        refine marked.drop rfl rfl (fun _ => id) ?_ ?_
        · intro index entry present
          exact (lookup_of_lookup_retain present).1
        · rintro index key (⟨item, member, matching⟩ | record)
          · exact .inl (.inl ⟨item, List.mem_of_mem_filter member, matching⟩)
          · exact .inl (.inr record)
      apply dropped.collect noReuse
      intro item member
      rcases List.mem_filter.mp member with ⟨queued, due⟩
      have position : item.deleteAfterLogIndex ≤ logId.index := of_decide_eq_true due
      have scheduled : store.Scheduled item.deleteAfterLogIndex item.key :=
        .inl ⟨item, queued, rfl, rfl⟩
      have freed := sound.freed _ _ scheduled
      refine ⟨freed.1, lt_of_le_of_lt position bounded, ?_⟩
      intro index entry present
      rcases lookup_of_lookup_retain present with ⟨logged, remains⟩
      have beyond : logId.index < index := of_decide_eq_true remains
      exact freed.2 index entry (by omega) logged

/-! ## The state advances -/

theorem Sound.schedulePayloadGc (sound : store.Sound log)
    (new : store.FreedForGood log index key) (recordFails : String → Bool) :
    (store.schedulePayloadGc index recordFails key).Sound log := by
  refine sound.drop rfl rfl (fun _ => id) (fun _ _ => id) ?_
  rintro other name (⟨item, member, position, same⟩ | record)
  · rcases List.mem_append.mp member with older | newest
    · exact .inl (.inl ⟨item, older, position, same⟩)
    · cases List.mem_singleton.mp newest
      subst position same
      exact .inr new
  · rw [Store.schedulePayloadGc] at record
    split at record
    · exact .inl (.inr record)
    · rcases Finset.mem_insert.mp record with newest | older
      · cases newest
        exact .inr new
      · exact .inl (.inr older)

theorem Sound.scheduleAll (recordFails : String → Bool) (keys : List String)
    (sound : store.Sound log) (freed : ∀ key ∈ keys, store.FreedForGood log index key) :
    (keys.foldl (Store.schedulePayloadGc index recordFails) store).Sound log := by
  induction keys generalizing store with
  | nil => exact sound
  | cons key keys induction =>
    have scheduled := sound.schedulePayloadGc (freed key List.mem_cons_self) recordFails
    apply induction scheduled
    intro other member
    exact freed other (List.mem_cons_of_mem key member)

theorem Sound.advance (sound : store.Sound log)
    {next : StateMachineData SessionStateStorage} (holds : log.Holds next)
    (advanced : nextIndex next = nextIndex store.data + 1)
    (logged : store.logs.lookup (nextIndex store.data) = some (log.entry (nextIndex store.data))) :
    Sound log { store with data := next } :=
  { sound with
    held := by
      intro key member
      have reached : log.stateAt (nextIndex store.data + 1) = some (forgetTimes next) := by
        rw [← advanced]
        exact holds
      have held : key ∈ (forgetTimes next).state.heldKeys := by
        rwa [forgetTimes, heldKeys_forgetTimes]
      rcases CommittedLog.mem_heldKeys_succ reached held with ⟨_, before, kept⟩ | registered
      · rw [sound.holds] at before
        cases before
        rw [forgetTimes, heldKeys_forgetTimes] at kept
        exact sound.held key kept
      · exact sound.logged _ _ logged key registered
    holds := holds
    snapshotBehind := by
      have behind := sound.snapshotBehind
      change store.snapshotIndex ≤ nextIndex next
      omega }

theorem Sound.applyEntry {environment : ApplyEnvironment} (sound : store.Sound log)
    (allowed : store.Allowed log (.apply entry environment))
    (applied : store.applyEntry entry environment = some next) : next.Sound log := by
  rcases allowed with ⟨committed, logged, fresh⟩
  subst committed
  rw [Store.applyEntry] at applied
  split at applied
  · cases applied
  · rename_i data output outcome
    rcases sound.holds.applyEntry outcome with ⟨holds, advanced, freedKeys⟩
    split at applied
    · rename_i visited
      cases applied
      apply Sound.scheduleAll
      · exact sound.advance holds advanced logged
      · intro key member
        rw [log.index_entry]
        refine ⟨?_, fresh key member⟩
        rw [← freedKeys, ← visited]
        exact member
    · cases applied

/-! ## The state is replaced -/

variable {snapshot : Snapshot SessionStateStorage}

theorem Sound.replaceState (sound : store.Sound log)
    (holds : log.Holds (updateStateMachine snapshot))
    (present : ∀ key ∈ snapshot.data.heldKeys, store.contains key = true)
    (behind : store.snapshotIndex ≤ nextIndex (updateStateMachine snapshot)) :
    (store.replaceState snapshot).Sound log :=
  { sound with
    held := present
    holds := holds
    snapshotBehind := behind }

theorem Sound.replaceBoth (sound : store.Sound log)
    (holds : log.Holds (updateStateMachine snapshot))
    (present : ∀ key ∈ snapshot.data.heldKeys, store.contains key = true) :
    ((store.replaceState snapshot).setCurrentSnapshot snapshot).Sound log :=
  { sound with
    held := present
    holds := holds
    snapshotHolds := by
      rintro other ⟨⟩
      exact holds
    snapshotBehind := le_refl _
    heldBySnapshot := by
      rintro other ⟨⟩
      exact present }

/-- What asking the peers leaves: only payloads are added, and after a success all
requested keys are there. -/
theorem Sound.syncPayloads {bulkSync : NodeId → BulkSync} {requested : Finset String}
    (nodes : List NodeId) (sound : store.Sound log)
    (delivers : ∀ node, (bulkSync node).succeeds = true → ∀ key ∈ requested,
      key ∈ (bulkSync node).stored.map Prod.fst ∨ store.contains key = true) :
    (store.syncPayloads bulkSync nodes).1.Sound log ∧
      (store.syncPayloads bulkSync nodes).1.snapshotIndex = store.snapshotIndex ∧
      (∀ key, store.contains key = true →
        (store.syncPayloads bulkSync nodes).1.contains key = true) ∧
      ((store.syncPayloads bulkSync nodes).2 = true → ∀ key ∈ requested,
        (store.syncPayloads bulkSync nodes).1.contains key = true) := by
  induction nodes generalizing store with
  | nil => exact ⟨sound, rfl, fun key present => present, nofun⟩
  | cons node nodes induction =>
    have batch := sound.putBatch (bulkSync node).stored
    have grows : ∀ key, store.contains key = true →
        (store.putBatch (bulkSync node).stored).contains key = true := by
      intro key present
      exact (contains_putBatch _ store key).mpr (.inr present)
    have sameSnapshot : (store.putBatch (bulkSync node).stored).snapshotIndex =
        store.snapshotIndex := by
      rw [snapshotIndex, snapshotIndex, snapshot_putBatch]
    rw [Store.syncPayloads]
    split
    · rename_i success
      refine ⟨batch, sameSnapshot, grows, ?_⟩
      intro _ key member
      exact (contains_putBatch _ store key).mpr (delivers node success key member)
    · have later := induction batch fun other success key member =>
        (delivers other success key member).imp_right (grows key)
      refine ⟨later.1, later.2.1.trans sameSnapshot, ?_, later.2.2.2⟩
      intro key present
      exact later.2.2.1 key (grows key present)

theorem contains_of_notMem_missingKeys {unreadable : String → Bool}
    (held : key ∈ snapshot.data.heldKeys) (found : key ∉ store.missingKeys unreadable snapshot) :
    store.contains key = true := by
  by_contra absent
  apply found
  rw [missingKeys, Finset.mem_filter, Multiset.mem_toFinset]
  rw [Bool.not_eq_true] at absent
  refine ⟨held, ?_⟩
  rw [absent, Bool.not_false, Bool.or_true]

theorem Sound.installSnapshot {environment : InstallEnvironment} (sound : store.Sound log)
    (allowed : store.Allowed log (.installSnapshot snapshot environment)) :
    (store.installSnapshot snapshot environment).1.Sound log := by
  rcases allowed with ⟨holds, delivers, behind⟩
  -- Either nothing is missing, or the peers are asked for what is.
  have synced : ∃ next success, (if store.missingKeys environment.unreadable snapshot = ∅
        then (store, true)
        else store.syncPayloads environment.bulkSync (store.peers snapshot)) = (next, success) ∧
      next.Sound log ∧ next.snapshotIndex = store.snapshotIndex ∧
      (success = true → ∀ key ∈ snapshot.data.heldKeys, next.contains key = true) := by
    split
    · rename_i nothing
      refine ⟨store, true, rfl, sound, rfl, ?_⟩
      intro _ key held
      apply contains_of_notMem_missingKeys held
      rw [nothing]
      exact Finset.notMem_empty key
    · rcases sound.syncPayloads (store.peers snapshot) delivers with
        ⟨kept, sameSnapshot, grows, all⟩
      refine ⟨_, _, rfl, kept, sameSnapshot, ?_⟩
      intro success key held
      by_cases missing : key ∈ store.missingKeys environment.unreadable snapshot
      · exact all success key missing
      · exact grows key (contains_of_notMem_missingKeys held missing)
  rcases synced with ⟨_, _, result, kept, sameSnapshot, present⟩
  rw [Store.installSnapshot, result]
  dsimp only
  split
  · rename_i succeeded
    split
    · rename_i failing
      apply kept.replaceState holds (present succeeded)
      rw [sameSnapshot]
      exact behind failing
    · exact kept.replaceBoth holds (present succeeded)
  · exact kept

theorem heldKeys_eq_of_holds {first second : StateMachineData SessionStateStorage}
    (firstHolds : log.Holds first) (secondHolds : log.Holds second)
    (sameIndex : nextIndex first = nextIndex second) :
    first.state.heldKeys = second.state.heldKeys := by
  rw [CommittedLog.Holds, sameIndex, secondHolds] at firstHolds
  have same := congrArg (fun data => data.state.heldKeys) (Option.some.inj firstHolds)
  simpa only [forgetTimes, heldKeys_forgetTimes] using same.symm

theorem Sound.setCurrentSnapshot (sound : store.Sound log)
    (holds : log.Holds (updateStateMachine snapshot))
    (sameIndex : nextIndex (updateStateMachine snapshot) = nextIndex store.data) :
    (store.setCurrentSnapshot snapshot).Sound log :=
  { sound with
    snapshotHolds := by
      rintro other ⟨⟩
      exact holds
    snapshotBehind := sameIndex.le
    heldBySnapshot := by
      rintro other ⟨⟩ key member
      have same := heldKeys_eq_of_holds holds sound.holds sameIndex
      exact sound.held key (same ▸ member) }

theorem Sound.newStorage {records : List (Nat × String)} (sound : store.Sound log)
    (opened : store.newStorage records = some next) :
    next.Sound log := by
  rw [Store.newStorage] at opened
  split at opened
  · rename_i read
    cases opened
    have fewer : ∀ index key, Scheduled index key { store with
        payloadGcQueue := records.map fun record =>
          { deleteAfterLogIndex := record.1, key := record.2, payloadDeleted := false } } →
        store.Scheduled index key := by
      rintro index key (⟨item, member, position, same⟩ | record)
      · rcases List.mem_map.mp member with ⟨record, listed, equal⟩
        subst equal position same
        exact .inr (read record listed)
      · exact .inr record
    exact { sound with
      held := by
        cases stored : store.snapshot with
        | none => nofun
        | some snapshot => exact sound.heldBySnapshot snapshot stored
      holds := by
        cases stored : store.snapshot with
        | none => exact CommittedLog.holds_initial
        | some snapshot => exact sound.snapshotHolds snapshot stored
      snapshotBehind := by
        cases store.snapshot with
        | none => exact Nat.zero_le _
        | some => exact le_refl _
      freed := fun index key scheduled => sound.freed index key (fewer index key scheduled) }
  · cases opened

/-! ## Whole runs -/

theorem Sound.step {log : CommittedLog} (noReuse : log.NoReuse) (store : Store)
    (input : StoreInput) (next : Store) (sound : store.Sound log)
    (allowed : store.Allowed log input) (stepped : store.step input = some next) :
    next.Sound log := by
  cases input with
  | put key bytes =>
    cases stepped
    exact sound.put key bytes
  | append entries =>
    cases stepped
    exact sound.appendEntries _ entries allowed
  | apply => exact sound.applyEntry allowed stepped
  | truncate logId fails =>
    cases stepped
    exact sound.truncate logId fails
  | purge logId faults =>
    cases stepped
    exact sound.purge noReuse allowed faults
  | installSnapshot =>
    cases stepped
    exact sound.installSnapshot allowed
  | buildSnapshot =>
    cases stepped
    exact sound.setCurrentSnapshot allowed.1 allowed.2
  | restart => exact sound.newStorage stepped

/-- In every state along every run, each payload key that the applied state holds or
that an entry of the log registers is present in the payload store. -/
theorem payloadsPresent_throughout (log : CommittedLog) (noReuse : log.NoReuse)
    (nodeId : NodeId) (inputs : List StoreInput)
    (allowed : EachStep Store.step (Allowed log) (new nodeId) inputs) :
    Throughout Store.step PayloadsPresent (new nodeId) inputs :=
  (throughout_of_eachStep (Sound.step noReuse) (sound_new log nodeId) allowed).mono
    fun _ => Sound.toPayloadsPresent

def firstTerm (index : Nat) (payload : EntryPayload SessionStateRequest) :
    Entry SessionStateRequest where
  logId := { leaderId := { term := 1, nodeId := 1 }, index := index }
  payload := payload

def queuedOnce : CommittedLog where
  entry index := firstTerm index (match index with
      | 0 => .normal (.createSessionState "public" "client" 10 none none)
      | 1 => .normal (.appendToPendingQueue "public" "client" "key")
      | 2 => .normal (.popFromPendingQueue "public" "client")
      | _ => .blank)
  index_entry _ := rfl

theorem noReuse_queuedOnce : queuedOnce.NoReuse := by
  intro freed later after key member registered
  have position : later = 1 := by
    rcases later with _ | _ | _ | later
    · cases registered
    · rfl
    · cases registered
    · cases registered
  have first : freed = 0 := by omega
  subst first
  cases member

def healthyAppend : AppendFaults where
  reads := [true]
  putFails := false

def healthyApply (freedKeys : List String) : ApplyEnvironment where
  now := 0
  unreadable := fun _ => false
  freedKeys := freedKeys
  recordFails := fun _ => false

def emptied : Snapshot SessionStateStorage :=
  let data := (queuedOnce.stateAt 3).getD initial
  buildSnapshot data.getSnapshotBuilder data.state

def collected : List StoreInput :=
  [.put "key" [1],
    .append [(queuedOnce.entry 0, healthyAppend), (queuedOnce.entry 1, healthyAppend)],
    .apply (queuedOnce.entry 0) (healthyApply []),
    .apply (queuedOnce.entry 1) (healthyApply []),
    .append [(queuedOnce.entry 2, healthyAppend)],
    .apply (queuedOnce.entry 2) (healthyApply ["key"]),
    .buildSnapshot emptied,
    .purge (queuedOnce.entry 2).logId
      { lastPurgedFails := false, deleteRangeFails := false, outcomes := [] },
    .restart []]

theorem allowed_collected : EachStep Store.step (Allowed queuedOnce) (new 1) collected := by
  refine EachStep.cons trivial ?_
  rintro next ⟨⟩
  refine EachStep.cons ⟨⟨nofun, nofun⟩, ⟨?_, ?_⟩, trivial⟩ ?_
  · intro existing present
    cases present
  · rintro key ⟨⟩ index (⟨item, member, _⟩ | record)
    · cases member
    · cases record
  rintro next ⟨⟩
  refine EachStep.cons ⟨rfl, rfl, nofun⟩ ?_
  rintro next ⟨⟩
  refine EachStep.cons ⟨rfl, rfl, nofun⟩ ?_
  rintro next ⟨⟩
  refine EachStep.cons ⟨⟨nofun, nofun⟩, trivial⟩ ?_
  rintro next ⟨⟩
  refine EachStep.cons ⟨rfl, rfl, ?_⟩ ?_
  · intro key member later other after present
    change 2 < later at after
    have listed : later ∈ ({2, 1, 0} : Finset Nat) :=
      Finmap.mem_keys.mpr (Finmap.mem_of_lookup_eq_some present)
    simp only [Finset.mem_insert, Finset.mem_singleton] at listed
    omega
  rintro next ⟨⟩
  refine EachStep.cons ⟨rfl, rfl⟩ ?_
  rintro next ⟨⟩
  refine EachStep.cons (by decide : 2 < 3) ?_
  rintro next ⟨⟩
  refine EachStep.cons trivial ?_
  rintro next ⟨⟩
  exact eachStep_nil _

/-- The message is collected after its last reference is gone, and not before. -/
theorem payloadsPresent_collected :
    (run Store.step (new 1) (collected.take 5)).map (Store.contains "key") = some true ∧
      (run Store.step (new 1) collected).map (Store.contains "key") = some false ∧
      Throughout Store.step PayloadsPresent (new 1) collected :=
  ⟨by decide, by decide,
    payloadsPresent_throughout queuedOnce noReuse_queuedOnce 1 collected allowed_collected⟩

end Store

end YedMQ.Raft.SessionState
