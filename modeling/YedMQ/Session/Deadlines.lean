import YedMQ.Session.SessionState

/-! # Deadlines of sessions

When the session of a client that has left is over. This is judged against absolute times in
seconds that are computed with saturating additions.
-/

namespace YedMQ

open Foundation

/-- Since when the client is away, if it is, and a new expiry interval. -/
structure ConnectionUpdate where
  disconnectedAt : Option Nat
  sessionExpiryInterval : Option UInt32

namespace SessionState

def withoutDeadline (state : SessionState) : SessionState :=
  { state with expiresAt := none }

def updatedBy (updates : List ConnectionUpdate) (state : SessionState) : SessionState :=
  updates.foldl (fun state update =>
    state.updateConnectionState update.disconnectedAt update.sessionExpiryInterval) state

/-- A stored deadline is the one that the other fields give. -/
def DeadlineAgrees (state : SessionState) : Prop :=
  ∀ deadline, state.expiresAt = some deadline → ∃ disconnectedAt interval,
    state.disconnectedAt = some disconnectedAt ∧ state.sessionExpiryInterval = some interval ∧
      deadline = saturatingAdd disconnectedAt interval.toNat

theorem deadlineAgrees_update (disconnectedAt : Option Nat) (interval : Option UInt32)
    (state : SessionState) :
    (state.updateConnectionState disconnectedAt interval).DeadlineAgrees := by
  intro deadline stored
  simp only [updateConnectionState] at stored ⊢
  split at stored
  · rename_i since known
    rw [expiryDeadline] at stored
    split at stored
    · cases stored
    · exact ⟨_, _, rfl, known, (Option.some.inj stored).symm⟩
  · cases stored

theorem deadlineAgrees_updatedBy (updates : List ConnectionUpdate) (state : SessionState) :
    (state.withoutDeadline.updatedBy updates).DeadlineAgrees := by
  induction updates using List.reverseRecOn with
  | nil => exact nofun
  | append_singleton updates update _ =>
    rw [updatedBy, List.foldl_concat]
    exact deadlineAgrees_update _ _ _

def IsOver (now ttl disconnectedAt : Nat) : Option UInt32 → Prop
  | some interval => interval ≠ 0xffffffff ∧
      min (disconnectedAt + interval.toNat) (2 ^ 64 - 1) ≤ now
  | none => disconnectedAt + ttl < now

theorem DeadlineAgrees.expired_iff {state : SessionState} (agrees : state.DeadlineAgrees)
    (now ttl disconnectedAt : Nat) :
    state.expiredDisconnectedAt now ttl = some disconnectedAt ↔
      state.disconnectedAt = some disconnectedAt ∧
        IsOver now ttl disconnectedAt state.sessionExpiryInterval := by
  rw [expiredDisconnectedAt]
  cases away : state.disconnectedAt with
  | none => simp
  | some since =>
    rw [Option.bind_some]
    cases known : state.sessionExpiryInterval with
    | none =>
      simp only [IsOver]
      split
      · simp only [Option.some.injEq]
        omega
      · simp only [reduceCtorEq, Option.some.injEq, false_iff]
        omega
    | some interval =>
      have deadline : state.expiresAt.getD (saturatingAdd since interval.toNat) =
          min (since + interval.toNat) (2 ^ 64 - 1) := by
        cases stored : state.expiresAt with
        | none => rfl
        | some deadline =>
          rcases agrees deadline stored with ⟨_, _, sameAway, sameInterval, computed⟩
          rw [away] at sameAway
          rw [known] at sameInterval
          cases sameAway
          cases sameInterval
          exact computed
      simp only [IsOver, deadline]
      split
      · rename_i endless
        simp [endless]
      · rename_i finite
        split
        · rename_i ended
          rw [Option.some.injEq]
          constructor
          · intro same
            subst same
            exact ⟨rfl, finite, ended⟩
          · exact And.left
        · rename_i early
          rw [Option.some.injEq]
          constructor
          · intro none
            cases none
          · rintro ⟨same, _, ended⟩
            subst same
            exact absurd ended early

end SessionState

namespace SessionStateStorage

def scanExpiredSessions (now ttl : Nat) (storage : SessionStateStorage) :
    Multiset (String × String × Nat) :=
  storage.inner.entries.bind fun sessions =>
    sessions.2.entries.filterMap fun session =>
      (session.2.expiredDisconnectedAt now ttl).map fun disconnectedAt =>
        (sessions.1, session.1, disconnectedAt)

theorem mem_scanExpiredSessions {now ttl disconnectedAt : Nat} {storage : SessionStateStorage}
    {tenantId clientId : String} :
    (tenantId, clientId, disconnectedAt) ∈ storage.scanExpiredSessions now ttl ↔
      ∃ state, storage.getSessionState tenantId clientId = some state ∧
        state.expiredDisconnectedAt now ttl = some disconnectedAt := by
  simp only [scanExpiredSessions, Multiset.mem_bind, Multiset.mem_filterMap,
    Option.map_eq_some_iff, Prod.mk.injEq, getSessionState, NestedMap.getAt,
    Option.bind_eq_some_iff]
  constructor
  · rintro ⟨sessions, listed, session, found, _, expired, sameTenant, sameClient, same⟩
    subst sameTenant sameClient same
    exact ⟨session.2, ⟨sessions.2, Finmap.mem_lookup_iff.mpr listed,
      Finmap.mem_lookup_iff.mpr found⟩, expired⟩
  · rintro ⟨state, ⟨sessions, listed, found⟩, expired⟩
    exact ⟨⟨tenantId, sessions⟩, Finmap.mem_lookup_iff.mp listed, ⟨clientId, state⟩,
      Finmap.mem_lookup_iff.mp found, disconnectedAt, expired, rfl, rfl, rfl⟩

variable (tenantId clientId : String)

def afterUpdates (first : SessionState)
    (updates : List ConnectionUpdate) (storage : SessionStateStorage) : SessionStateStorage :=
  updates.foldl (fun storage update => storage.updateConnectionState tenantId clientId
      update.disconnectedAt update.sessionExpiryInterval)
    (storage.setSessionState tenantId clientId first.withoutDeadline)

theorem getSessionState_afterUpdates (first : SessionState)
    (updates : List ConnectionUpdate) (storage : SessionStateStorage) :
    (storage.afterUpdates tenantId clientId first updates).getSessionState tenantId clientId =
      some (first.withoutDeadline.updatedBy updates) := by
  induction updates using List.reverseRecOn with
  | nil => exact getSessionState_setSessionState tenantId clientId _ storage
  | append_singleton updates update induction =>
    rw [afterUpdates, List.foldl_concat, ← afterUpdates, SessionState.updatedBy,
      List.foldl_concat, updateConnectionState, getSessionState_modifySessionState, induction]
    rfl

/-- The scan reports a session exactly when its lifetime is over, and goes on to report it
until the next update. Deadlines do not overflow. -/
theorem scan_reports_over (first : SessionState)
    (updates : List ConnectionUpdate) (storage : SessionStateStorage)
    (now ttl disconnectedAt : Nat) :
    ((tenantId, clientId, disconnectedAt) ∈
        (storage.afterUpdates tenantId clientId first updates).scanExpiredSessions now ttl ↔
      (first.withoutDeadline.updatedBy updates).disconnectedAt = some disconnectedAt ∧
        SessionState.IsOver now ttl disconnectedAt
          (first.withoutDeadline.updatedBy updates).sessionExpiryInterval) ∧
    ((tenantId, clientId, disconnectedAt) ∈
        (storage.afterUpdates tenantId clientId first updates).scanExpiredSessions now ttl →
      ∀ later, now ≤ later → (tenantId, clientId, disconnectedAt) ∈
        (storage.afterUpdates tenantId clientId first updates).scanExpiredSessions later ttl) ∧
    ∀ deadline, (first.withoutDeadline.updatedBy updates).expiresAt = some deadline →
      deadline < 2 ^ 64 := by
  have agrees := SessionState.deadlineAgrees_updatedBy updates first
  have reported : ∀ time, (tenantId, clientId, disconnectedAt) ∈
        (storage.afterUpdates tenantId clientId first updates).scanExpiredSessions time ttl ↔
      (first.withoutDeadline.updatedBy updates).disconnectedAt = some disconnectedAt ∧
        SessionState.IsOver time ttl disconnectedAt
          (first.withoutDeadline.updatedBy updates).sessionExpiryInterval := by
    intro time
    rw [mem_scanExpiredSessions, getSessionState_afterUpdates, ← agrees.expired_iff]
    simp
  refine ⟨reported now, ?_, ?_⟩
  · intro expired later after
    rw [reported] at expired ⊢
    refine ⟨expired.1, ?_⟩
    have ended := expired.2
    cases known : (first.withoutDeadline.updatedBy updates).sessionExpiryInterval with
    | none =>
      rw [known] at ended
      exact Nat.lt_of_lt_of_le ended after
    | some =>
      rw [known] at ended
      exact ⟨ended.1, ended.2.trans after⟩
  · intro deadline stored
    rcases agrees deadline stored with ⟨_, _, _, _, computed⟩
    rw [computed, saturatingAdd]
    omega

/-- At the last second the sum saturates, and the session is over before its interval is. -/
theorem reported_before_interval :
    ("t", "c", 2 ^ 64 - 2) ∈ (new.afterUpdates "t" "c" (.newWithOptions 1 none none)
      [⟨some (2 ^ 64 - 2), some 5⟩]).scanExpiredSessions (2 ^ 64 - 1) 0 ∧
    2 ^ 64 - 1 < 2 ^ 64 - 2 + (5 : UInt32).toNat := by
  refine ⟨?_, by decide⟩
  rw [mem_scanExpiredSessions]
  exact ⟨_, rfl, by decide⟩

end SessionStateStorage

end YedMQ
