import YedMQ.Semantics.Replay
import YedMQ.Session.SessionState

/-! # Updates of a session that may be repeated

Some updates of a session change nothing when they are made again, alone or within a
series of such updates: starting a delivery, discarding an unsent exchange, dropping the
finished exchanges, subscribing and unsubscribing, and recording the connection. They
act separately on each inflight exchange, on each subscription and on the connection.
-/

namespace YedMQ

open Foundation Semantics InflightItem

/-! ## One inflight exchange -/

namespace InflightItem

def start (item : InflightItem) : InflightItem :=
  { item with deliveryStarted := true }

@[simp] theorem start_start (item : InflightItem) : item.start.start = item.start := rfl

variable (packetKey : String)

def markStarted : Option InflightItem → Option InflightItem :=
  Option.map fun item => if item.packetKey = some packetKey then item.start else item

def isUnsent (item : InflightItem) : Bool :=
  !(item.deliveryStarted || item.packetKey != some packetKey ||
    !(item.state == .waitPuback || item.state == .waitPubrec))

/-- Updates that remove an exchange, keep it or mark it as started, and that never
remove a started one after they kept it unstarted. -/
structure Settles (update : Option InflightItem → Option InflightItem) : Prop where
  none : update none = none
  cases : ∀ item, update (some item) = Option.none ∨ update (some item) = some item ∨
    update (some item) = some item.start
  started : ∀ item, update (some item) ≠ Option.none → update (some item.start) = some item.start
  idem : ∀ value, update (update value) = update value

theorem Settles.band : Band Settles where
  refl :=
    { none := rfl
      cases := fun _ => .inr (.inl rfl)
      started := fun _ _ => rfl
      idem := fun _ => rfl }
  comp := by
    intro first second firstSettles secondSettles
    have atNone : (second ∘ first) Option.none = Option.none := by
      rw [Function.comp, firstSettles.none, secondSettles.none]
    -- What is kept as started stays as it is.
    have started : ∀ item, (second ∘ first) (some item) ≠ Option.none →
        (second ∘ first) (some item.start) = some item.start := by
      intro item kept
      have firstKept : first (some item) ≠ Option.none := by
        intro dropped
        exact kept (by rw [Function.comp, dropped, secondSettles.none])
      have throughFirst := firstSettles.started item firstKept
      rw [Function.comp, throughFirst]
      rcases firstSettles.cases item with dropped | same | marked
      · exact absurd dropped firstKept
      · rw [Function.comp, same] at kept
        exact secondSettles.started item kept
      · rw [Function.comp, marked] at kept
        exact secondSettles.started item.start kept
    have cases : ∀ item, (second ∘ first) (some item) = Option.none ∨
        (second ∘ first) (some item) = some item ∨
          (second ∘ first) (some item) = some item.start := by
      intro item
      rw [Function.comp]
      rcases firstSettles.cases item with dropped | same | marked
      · rw [dropped, secondSettles.none]
        exact .inl rfl
      · rw [same]
        exact secondSettles.cases item
      · rw [marked]
        exact (secondSettles.cases item.start).imp_right fun kept => .inr (kept.elim id id)
    refine ⟨atNone, cases, started, ?_⟩
    intro value
    cases value with
    | none => rw [atNone, atNone]
    | some item =>
      rcases cases item with dropped | same | marked
      · rw [dropped, atNone]
      · rw [same, same]
      · rw [marked]
        exact started item (marked ▸ Option.some_ne_none _)
  idem := fun _ settles => settles.idem

theorem Settles.markStarted : Settles (markStarted packetKey) where
  none := rfl
  cases := by
    intro item
    simp only [InflightItem.markStarted, Option.map_some]
    split
    · exact .inr (.inr rfl)
    · exact .inr (.inl rfl)
  started := by
    intro item _
    simp only [InflightItem.markStarted, Option.map_some]
    split <;> rfl
  idem := by
    intro value
    cases value with
    | none => rfl
    | some item =>
      by_cases matching : item.packetKey = some packetKey
      · simp [InflightItem.markStarted, matching]
      · simp [InflightItem.markStarted, matching]

/-- Dropping exchanges by a condition under which starting an exchange only helps to
keep it. -/
theorem Settles.filter {keep : InflightItem → Bool}
    (started : ∀ item, keep item = true → keep item.start = true) :
    Settles (Option.filter keep) where
  none := rfl
  cases := by
    intro item
    cases kept : keep item with
    | false => exact .inl (by simp [Option.filter, kept])
    | true => exact .inr (.inl (by simp [Option.filter, kept]))
  started := by
    intro item isKept
    cases kept : keep item with
    | false => simp [Option.filter, kept] at isKept
    | true => simp [Option.filter, started item kept]
  idem := by
    intro value
    cases value with
    | none => rfl
    | some item => cases kept : keep item <;> simp [Option.filter, kept]

theorem Settles.discard : Settles (Option.filter fun item => !item.isUnsent packetKey) := by
  apply Settles.filter
  simp [isUnsent, start]

theorem Settles.clean : Settles (Option.filter fun item => item.state != .finish) :=
  Settles.filter fun _ kept => kept

end InflightItem

/-! ## The connection -/

structure SessionConnection where
  disconnectedAt : Option Nat
  protocolVersion : Option ProtocolVersion
  sessionExpiryInterval : Option UInt32
  expiresAt : Option Nat
deriving DecidableEq

def SessionState.connection (state : SessionState) : SessionConnection where
  disconnectedAt := state.disconnectedAt
  protocolVersion := state.protocolVersion
  sessionExpiryInterval := state.sessionExpiryInterval
  expiresAt := state.expiresAt

namespace SessionConnection

def record (disconnectedAt : Option Nat) (update : Option (Option ProtocolVersion × Option UInt32))
    (connection : SessionConnection) : SessionConnection :=
  let kept := update.getD (connection.protocolVersion, connection.sessionExpiryInterval)
  { disconnectedAt := disconnectedAt
    protocolVersion := kept.1
    sessionExpiryInterval := kept.2
    expiresAt :=
      match disconnectedAt, kept.2 with
      | some disconnectedAt, some sessionExpiryInterval =>
        SessionState.expiryDeadline disconnectedAt sessionExpiryInterval
      | _, _ => none }

def Records (update : SessionConnection → SessionConnection) : Prop :=
  update = id ∨ ∃ disconnectedAt interval, update = record disconnectedAt interval

theorem record_record (first second : Option Nat)
    (earlier later : Option (Option ProtocolVersion × Option UInt32))
    (connection : SessionConnection) :
    record second later (record first earlier connection) =
      record second (later.or earlier) connection := by
  cases later with
  | none =>
    cases earlier with
    | none | some => rfl
  | some => rfl

theorem Records.band : Band Records where
  refl := .inl rfl
  comp := by
    intro first second firstCase secondCase
    rcases secondCase with same | ⟨disconnectedAt, later, records⟩
    · subst same
      exact firstCase
    · subst records
      rcases firstCase with same | ⟨_, earlier, records⟩
      · subst same
        exact .inr ⟨disconnectedAt, later, rfl⟩
      · subst records
        exact .inr ⟨disconnectedAt, later.or earlier,
          funext fun connection => record_record _ _ _ _ connection⟩
  idem := by
    intro update cases connection
    rcases cases with same | ⟨_, interval, records⟩
    · subst same
      rfl
    · subst records
      cases interval <;> rfl

theorem connection_updateConnectionState (disconnectedAt : Option Nat)
    (sessionExpiryIntervalUpdate : Option UInt32) (state : SessionState) :
    (state.updateConnectionState disconnectedAt sessionExpiryIntervalUpdate).connection =
      record disconnectedAt
        (sessionExpiryIntervalUpdate.map fun interval => (some .v5_0, some interval))
        state.connection := by
  cases sessionExpiryIntervalUpdate <;> rfl

end SessionConnection

/-! ## Whole sessions -/

namespace SessionState

theorem ext_lookup {left right : SessionState}
    (pending : left.pendingMessages = right.pendingMessages)
    (duration : left.inflight.expiredDuration = right.inflight.expiredDuration)
    (items : ∀ packetId, left.inflight.inner.lookup packetId =
      right.inflight.inner.lookup packetId)
    (subscriptions : ∀ topic, left.subscriptions.lookup topic =
      right.subscriptions.lookup topic)
    (connection : left.connection = right.connection) : left = right := by
  have sameItems := Finmap.ext_lookup items
  have sameSubscriptions := Finmap.ext_lookup subscriptions
  cases left with
  | mk leftPending leftInflight =>
    cases right with
    | mk rightPending rightInflight =>
      cases rightInflight
      cases pending
      cases duration
      cases sameItems
      cases sameSubscriptions
      cases connection
      rfl

structure ActsBy (items : UInt16 → Option InflightItem → Option InflightItem)
    (subscriptions : String → Option SubscriptionState → Option SubscriptionState)
    (connection : SessionConnection → SessionConnection)
    (update : SessionState → SessionState) : Prop where
  pending : ∀ state, (update state).pendingMessages = state.pendingMessages
  duration : ∀ state, (update state).inflight.expiredDuration = state.inflight.expiredDuration
  item : ∀ state packetIdentifier, (update state).inflight.inner.lookup packetIdentifier =
      items packetIdentifier (state.inflight.inner.lookup packetIdentifier)
  subscription : ∀ state topic, (update state).subscriptions.lookup topic =
    subscriptions topic (state.subscriptions.lookup topic)
  connection : ∀ state, (update state).connection = connection state.connection

def Repeats (update : SessionState → SessionState) : Prop :=
  ∃ items subscriptions connection,
    (∀ packetIdentifier, InflightItem.Settles (items packetIdentifier)) ∧
    (∀ topic, Overwrite (subscriptions topic)) ∧
    SessionConnection.Records connection ∧ ActsBy items subscriptions connection update

theorem Repeats.band : Band Repeats where
  refl := ⟨fun _ => id, fun _ => id, id, fun _ => InflightItem.Settles.band.refl,
    fun _ => Overwrite.band.refl, SessionConnection.Records.band.refl,
    ⟨fun _ => rfl, fun _ => rfl, fun _ _ => rfl, fun _ _ => rfl, fun _ => rfl⟩⟩
  comp := by
    intro first second firstRepeats secondRepeats
    rcases firstRepeats with ⟨items, subscriptions, connection, settles, overwrites, records, acts⟩
    rcases secondRepeats with ⟨laterItems, laterSubscriptions, laterConnection,
      laterSettles, laterOverwrites, laterRecords, laterActs⟩
    refine ⟨fun packetId => laterItems packetId ∘ items packetId,
      fun topic => laterSubscriptions topic ∘ subscriptions topic,
      laterConnection ∘ connection, ?_, ?_, ?_, ?_⟩
    · intro packetId
      exact InflightItem.Settles.band.comp _ _ (settles packetId)
        (laterSettles packetId)
    · intro topic
      exact Overwrite.band.comp _ _ (overwrites topic) (laterOverwrites topic)
    · exact SessionConnection.Records.band.comp _ _ records laterRecords
    · refine ⟨?_, ?_, ?_, ?_, ?_⟩
      · intro state
        exact (laterActs.pending _).trans (acts.pending state)
      · intro state
        exact (laterActs.duration _).trans (acts.duration state)
      · intro state packetId
        rw [Function.comp, Function.comp, laterActs.item, acts.item]
      · intro state topic
        rw [Function.comp, Function.comp, laterActs.subscription, acts.subscription]
      · intro state
        rw [Function.comp, Function.comp, laterActs.connection, acts.connection]
  idem := by
    intro update repeats state
    rcases repeats with ⟨_, _, connection, settles, overwrites, records, acts⟩
    apply ext_lookup
    · exact acts.pending _
    · exact acts.duration _
    · intro packetId
      rw [acts.item, acts.item]
      exact (settles packetId).idem _
    · intro topic
      rw [acts.subscription, acts.subscription]
      exact Overwrite.band.idem _ (overwrites topic) _
    · rw [acts.connection, acts.connection]
      exact SessionConnection.Records.band.idem _ records _

/-- The messages of a session come from another: the queue is the same, and each
exchange is one of the other session, perhaps started since. -/
structure Remains (state before : SessionState) : Prop where
  pending : state.pendingMessages = before.pendingMessages
  item : ∀ packetIdentifier item, state.inflight.inner.lookup packetIdentifier = some item →
      ∃ old, before.inflight.inner.lookup packetIdentifier = some old ∧
        (item = old ∨ item = old.start)

theorem Repeats.remains {update : SessionState → SessionState} (repeats : Repeats update)
    (state : SessionState) : Remains (update state) state := by
  rcases repeats with ⟨_, _, _, settles, _, _, acts⟩
  refine ⟨acts.pending state, ?_⟩
  intro packetId item found
  rw [acts.item] at found
  cases before : state.inflight.inner.lookup packetId with
  | none =>
    rw [before, (settles packetId).none] at found
    cases found
  | some old =>
    refine ⟨old, rfl, ?_⟩
    rw [before] at found
    rcases (settles packetId).cases old with dropped | same | started
    · rw [dropped] at found
      cases found
    · rw [same] at found
      cases found
      exact .inl rfl
    · rw [started] at found
      cases found
      exact .inr rfl

theorem Repeats.of_inflight (change : Inflight → Inflight)
    (items : UInt16 → Option InflightItem → Option InflightItem)
    (settles : ∀ packetIdentifier, InflightItem.Settles (items packetIdentifier))
    (duration : ∀ inflight, (change inflight).expiredDuration = inflight.expiredDuration)
    (acts : ∀ inflight packetIdentifier, (change inflight).inner.lookup packetIdentifier =
      items packetIdentifier (inflight.inner.lookup packetIdentifier)) :
    Repeats fun state => { state with inflight := change state.inflight } :=
  ⟨items, fun _ => id, id, settles, fun _ => Overwrite.band.refl,
    SessionConnection.Records.band.refl,
    ⟨fun _ => rfl, fun _ => duration _, fun _ _ => acts _ _, fun _ _ => rfl, fun _ => rfl⟩⟩

theorem Repeats.of_subscriptions
    (change : HashMap String SubscriptionState → HashMap String SubscriptionState)
    (subscriptions : String → Option SubscriptionState → Option SubscriptionState)
    (overwrites : ∀ topic, Overwrite (subscriptions topic))
    (acts : ∀ map topic, (change map).lookup topic = subscriptions topic (map.lookup topic)) :
    Repeats fun state => { state with subscriptions := change state.subscriptions } :=
  ⟨fun _ => id, subscriptions, id, fun _ => InflightItem.Settles.band.refl, overwrites,
    SessionConnection.Records.band.refl,
    ⟨fun _ => rfl, fun _ => rfl, fun _ _ => rfl, fun _ _ => acts _ _, fun _ => rfl⟩⟩

end SessionState

/-! ## The single updates -/

namespace Inflight

theorem lookup_markDeliveryStarted (packetId : UInt16) (packetKey : String)
    (inflight : Inflight) (other : UInt16) :
    (inflight.markDeliveryStarted packetId packetKey).1.inner.lookup other =
      (if other = packetId then markStarted packetKey else id)
        (inflight.inner.lookup other) := by
  rw [markDeliveryStarted]
  rcases eq_or_ne other packetId with same | different
  · subst same
    cases present : inflight.inner.lookup other with
    | none => simp [present, markStarted]
    | some item =>
      by_cases matching : item.packetKey = some packetKey
      · simp [matching, markStarted, start]
      · simp [matching, present, markStarted]
  · rw [if_neg different]
    cases present : inflight.inner.lookup packetId with
    | none => rfl
    | some =>
      dsimp only
      split
      · exact Finmap.lookup_insert_of_ne _ different
      · rfl

theorem lookup_discardUnsent (packetId : UInt16) (packetKey : String)
    (inflight : Inflight) (other : UInt16) :
    (inflight.discardUnsent packetId packetKey).1.inner.lookup other =
      (if other = packetId then
          Option.filter fun item => !item.isUnsent packetKey
        else id) (inflight.inner.lookup other) := by
  rw [discardUnsent]
  rcases eq_or_ne other packetId with same | different
  · subst same
    rw [if_pos rfl]
    cases present : inflight.inner.lookup other with
    | none => simp [present]
    | some =>
      dsimp only
      split
      · rename_i kept
        rw [present, Option.filter, isUnsent, kept]
        rfl
      · rename_i unsent
        rw [Finmap.lookup_erase, Option.filter, isUnsent, Bool.eq_false_of_not_eq_true unsent]
        rfl
  · rw [if_neg different]
    cases present : inflight.inner.lookup packetId with
    | none => rfl
    | some =>
      dsimp only
      split
      · rfl
      · exact Finmap.lookup_erase_ne different

theorem lookup_cleanFinishedItems (inflight : Inflight) (packetIdentifier : UInt16) :
    inflight.cleanFinishedItems.1.inner.lookup packetIdentifier =
      (inflight.inner.lookup packetIdentifier).filter fun item => item.state != .finish :=
  HashMap.lookup_retain _ _ _

end Inflight

namespace SessionState

theorem repeats_startDelivery (packetId : UInt16) (packetKey : String) :
    Repeats fun state => { state with
      inflight := (state.inflight.markDeliveryStarted packetId packetKey).1 } := by
  apply Repeats.of_inflight
    (fun inflight => (inflight.markDeliveryStarted packetId packetKey).1)
    (fun other => if other = packetId then markStarted packetKey
      else id)
  · exact fun other => Settles.band.ite (.markStarted packetKey) _
  · intro inflight
    rw [Inflight.markDeliveryStarted]
    split
    · split <;> rfl
    · rfl
  · exact fun inflight other =>
      inflight.lookup_markDeliveryStarted packetId packetKey other

theorem repeats_discardUnsent (packetId : UInt16) (packetKey : String) :
    Repeats fun state => { state with
      inflight := (state.inflight.discardUnsent packetId packetKey).1 } := by
  apply Repeats.of_inflight (fun inflight => (inflight.discardUnsent packetId packetKey).1)
    (fun other => if other = packetId then
      Option.filter fun item => !item.isUnsent packetKey else id)
  · exact fun other => Settles.band.ite (.discard packetKey) _
  · intro inflight
    rw [Inflight.discardUnsent]
    split
    · split <;> rfl
    · rfl
  · exact fun inflight other =>
      inflight.lookup_discardUnsent packetId packetKey other

theorem repeats_cleanFinishedItems :
    Repeats fun state => { state with inflight := state.inflight.cleanFinishedItems.1 } := by
  apply Repeats.of_inflight (fun inflight => inflight.cleanFinishedItems.1)
  · exact fun _ => InflightItem.Settles.clean
  · exact fun _ => rfl
  · exact Inflight.lookup_cleanFinishedItems

theorem repeats_subscribe (topic : String) (subscription : SubscriptionState) :
    Repeats fun state => { state with
      subscriptions := state.subscriptions.insert topic subscription } := by
  apply Repeats.of_subscriptions (fun map => map.insert topic subscription)
    (fun other => if other = topic then fun _ => some subscription else id)
  · exact fun other => Overwrite.band.ite (.inr ⟨_, rfl⟩) _
  · intro map other
    rcases eq_or_ne other topic with same | different
    · subst same
      rw [if_pos rfl, Finmap.lookup_insert]
    · rw [if_neg different, Finmap.lookup_insert_of_ne _ different]
      rfl

theorem repeats_unsubscribe (topic : String) :
    Repeats fun state => { state with subscriptions := state.subscriptions.erase topic } := by
  apply Repeats.of_subscriptions (fun map => map.erase topic)
    (fun other => if other = topic then fun _ => none else id)
  · exact fun other => Overwrite.band.ite (.inr ⟨_, rfl⟩) _
  · intro map other
    rcases eq_or_ne other topic with same | different
    · subst same
      rw [if_pos rfl, Finmap.lookup_erase]
    · rw [if_neg different, Finmap.lookup_erase_ne different]
      rfl

theorem repeats_updateConnectionState (disconnectedAt : Option Nat)
    (sessionExpiryIntervalUpdate : Option UInt32) :
    Repeats (updateConnectionState disconnectedAt sessionExpiryIntervalUpdate) :=
  ⟨fun _ => id, fun _ => id, _, fun _ => InflightItem.Settles.band.refl,
    fun _ => Overwrite.band.refl, .inr ⟨_, _, rfl⟩,
    ⟨fun _ => by cases sessionExpiryIntervalUpdate <;> rfl,
      fun _ => by cases sessionExpiryIntervalUpdate <;> rfl,
      fun _ _ => by cases sessionExpiryIntervalUpdate <;> rfl,
      fun _ _ => by cases sessionExpiryIntervalUpdate <;> rfl,
      SessionConnection.connection_updateConnectionState _ _⟩⟩

end SessionState

end YedMQ
