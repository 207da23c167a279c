import YedMQ.Foundation.NestedMap
import YedMQ.Raft.Entry

/-! # The map from sessions to the nodes that run them

Every registered session has an entry with its node, the instance that owns it and
the time until which the owner holds it. The system clock is read once for a
registration and once for each renewed session; `clock` gives the readings, in
seconds, by number.
-/

namespace YedMQ

open Foundation Raft

/-- The log index of the registration that owns a session. -/
structure SessionInstanceId where
  logIndex : Nat
deriving DecidableEq, Repr

structure SessionActorMapEntry where
  nodeId : NodeId
  instanceId : SessionInstanceId
  expirationTimestamp : Nat
deriving DecidableEq, Repr

structure RenewSession where
  tenantId : String
  sessionId : String
  sessionInstanceId : SessionInstanceId
deriving DecidableEq, Repr

structure ExpiredSession where
  tenantId : String
  sessionId : String
  nodeId : NodeId
  sessionInstanceId : SessionInstanceId
deriving DecidableEq, Repr

structure SessionActorMapStorage where
  inner : NestedMap String String SessionActorMapEntry
deriving DecidableEq

namespace SessionActorMapStorage

def new : SessionActorMapStorage where
  inner := ∅

def getSessionActorMap (tenantId clientId : String)
    (storage : SessionActorMapStorage) : Option SessionActorMapEntry :=
  storage.inner.getAt tenantId clientId

def renew (expirationTimestamp : Nat) (renewal : RenewSession)
    (storage : SessionActorMapStorage) : SessionActorMapStorage where
  inner := storage.inner.alterAt renewal.tenantId renewal.sessionId fun entry =>
    some (if entry.instanceId = renewal.sessionInstanceId then
      { entry with expirationTimestamp := expirationTimestamp }
    else
      entry)

def renewFrom (clock : Nat → Nat) (sessionTtl : Nat) :
    Nat → List RenewSession → SessionActorMapStorage → SessionActorMapStorage
  | _, [], storage => storage
  | position, renewal :: rest, storage =>
    renewFrom clock sessionTtl (position + 1) rest
      (storage.renew (clock position + sessionTtl) renewal)

def sessionLeaseRenew (clock : Nat → Nat) (sessions : List RenewSession)
    (sessionTtl : Nat) (storage : SessionActorMapStorage) : SessionActorMapStorage :=
  storage.renewFrom clock sessionTtl 0 sessions

def getAllExpiredSessions (now : Nat) (storage : SessionActorMapStorage) :
    Multiset ExpiredSession :=
  storage.inner.entries.bind fun tenant =>
    (tenant.2.entries.filter fun session => session.2.expirationTimestamp < now).map fun session =>
        { tenantId := tenant.1
          sessionId := session.1
          nodeId := session.2.nodeId
          sessionInstanceId := session.2.instanceId }

def registerSessionActor (clock : Nat → Nat) (tenantId sessionId : String)
    (nodeId : NodeId) (instanceId : SessionInstanceId) (sessionTtl : Nat)
    (storage : SessionActorMapStorage) :
    SessionActorMapStorage × Option SessionActorMapEntry :=
  ({ inner := storage.inner.setAt tenantId sessionId
      { nodeId := nodeId
        instanceId := instanceId
        expirationTimestamp := clock 0 + sessionTtl } },
    storage.getSessionActorMap tenantId sessionId)

def unregisterSessionActor (tenantId sessionId : String)
    (instanceId : SessionInstanceId) (storage : SessionActorMapStorage) :
    SessionActorMapStorage where
  inner := storage.inner.alterAt tenantId sessionId fun existing =>
    if existing.instanceId = instanceId then none else some existing

theorem ext_getSessionActorMap {left right : SessionActorMapStorage} (sameTenants : ∀ tenantId,
      left.inner.hasOuter tenantId = right.inner.hasOuter tenantId)
    (sameEntries : ∀ tenantId sessionId,
      left.getSessionActorMap tenantId sessionId =
        right.getSessionActorMap tenantId sessionId) : left = right := by
  exact congrArg mk (NestedMap.ext_getAt sameTenants sameEntries)

/-! ## What a renewal does to each entry -/

def lastRenewal (tenantId sessionId : String) (owner : SessionInstanceId) :
    Nat → List RenewSession → Option Nat
  | _, [] => none
  | position, renewal :: rest =>
    match lastRenewal tenantId sessionId owner (position + 1) rest with
    | some last => some last
    | none =>
      if renewal.tenantId = tenantId ∧ renewal.sessionId = sessionId ∧
          renewal.sessionInstanceId = owner then
        some position
      else
        none

def renewedEntry (clock : Nat → Nat) (sessionTtl : Nat) (tenantId sessionId : String)
    (position : Nat) (sessions : List RenewSession) (entry : SessionActorMapEntry) :
    SessionActorMapEntry :=
  match lastRenewal tenantId sessionId entry.instanceId position sessions with
  | some last => { entry with expirationTimestamp := clock last + sessionTtl }
  | none => entry

theorem getSessionActorMap_renew (expirationTimestamp : Nat) (renewal : RenewSession)
    (storage : SessionActorMapStorage) (tenantId sessionId : String) :
    (storage.renew expirationTimestamp renewal).getSessionActorMap tenantId sessionId =
      (storage.getSessionActorMap tenantId sessionId).map fun entry =>
        if renewal.tenantId = tenantId ∧ renewal.sessionId = sessionId ∧
            renewal.sessionInstanceId = entry.instanceId then
          { entry with expirationTimestamp := expirationTimestamp }
        else
          entry := by
  unfold getSessionActorMap renew
  by_cases same : (tenantId, sessionId) = (renewal.tenantId, renewal.sessionId)
  · cases same
    rw [NestedMap.getAt_alterAt_self]
    cases storage.inner.getAt renewal.tenantId renewal.sessionId with
    | none => rfl
    | some => simp [eq_comm]
  · rw [NestedMap.getAt_alterAt_of_ne same]
    have elsewhere : ∀ owner, ¬ (renewal.tenantId = tenantId ∧
        renewal.sessionId = sessionId ∧ renewal.sessionInstanceId = owner) := by
      rintro owner ⟨sameTenant, sameSession, _⟩
      exact same (by rw [sameTenant, sameSession])
    simp [elsewhere]

theorem getSessionActorMap_renewFrom (clock : Nat → Nat) (sessionTtl position : Nat)
    (sessions : List RenewSession) (storage : SessionActorMapStorage)
    (tenantId sessionId : String) :
    (storage.renewFrom clock sessionTtl position sessions).getSessionActorMap tenantId sessionId =
      (storage.getSessionActorMap tenantId sessionId).map
        (renewedEntry clock sessionTtl tenantId sessionId position sessions) := by
  induction sessions generalizing position storage with
  | nil =>
    rw [renewFrom]
    cases storage.getSessionActorMap tenantId sessionId <;> rfl
  | cons renewal rest induction =>
    rw [renewFrom, induction, getSessionActorMap_renew, Option.map_map]
    congr 1
    funext entry
    simp only [Function.comp, renewedEntry, lastRenewal]
    by_cases owned : renewal.tenantId = tenantId ∧ renewal.sessionId = sessionId ∧
        renewal.sessionInstanceId = entry.instanceId
    · simp only [owned, and_self, if_true]
      cases lastRenewal tenantId sessionId entry.instanceId (position + 1) rest <;> rfl
    · simp only [owned, if_false]
      cases lastRenewal tenantId sessionId entry.instanceId (position + 1) rest <;> rfl

theorem hasOuter_renewFrom (clock : Nat → Nat) (sessionTtl position : Nat)
    (sessions : List RenewSession) (storage : SessionActorMapStorage)
    (tenantId : String) :
    (storage.renewFrom clock sessionTtl position sessions).inner.hasOuter tenantId =
      storage.inner.hasOuter tenantId := by
  induction sessions generalizing position storage with
  | nil => rfl
  | cons renewal rest induction =>
    rw [renewFrom, induction]
    exact NestedMap.hasOuter_alterAt _ _ _ _ _

end SessionActorMapStorage

end YedMQ
