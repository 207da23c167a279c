import YedMQ.Session.SessionActorMap

/-! # The sessions that run on a node

The registry holds the addresses of the session actors that a node runs, each with
the instance it was started for. Messages that stop or remove a session carry an
instance, and act only on an entry of that instance.
-/

namespace YedMQ

open Foundation

/-- A session actor is known by the instance that it was started with. -/
structure SessionActorAddr where
  sessionInstanceId : SessionInstanceId
deriving DecidableEq, Repr

structure SessionActorRecipientWrapper where
  sessionActorMessageRecipient : SessionActorAddr
  sessionInstanceId : SessionInstanceId
  /-- The instance beside an address is the one that its actor was started with. -/
  startedFor : sessionActorMessageRecipient.sessionInstanceId = sessionInstanceId
deriving DecidableEq

def SessionActorRecipientWrapper.start (sessionInstanceId : SessionInstanceId) :
    SessionActorRecipientWrapper where
  sessionActorMessageRecipient := { sessionInstanceId := sessionInstanceId }
  sessionInstanceId := sessionInstanceId
  startedFor := rfl

inductive SessionManagerError where
  | tenantNotExisted (tenantId : String)
  | sessionNotExisted (clientId : String)
  | sessionSuperseded
  | sessionActorMapError
  | sessionStateRaftError
deriving DecidableEq, Repr

structure SessionRegistry where
  sessions : NestedMap String String SessionActorRecipientWrapper
deriving DecidableEq

namespace SessionRegistry

def new : SessionRegistry where
  sessions := ∅

variable (tenantId clientId : String)

def get (registry : SessionRegistry) :
    Option SessionActorRecipientWrapper :=
  registry.sessions.getAt tenantId clientId

def getSession (registry : SessionRegistry) :
    Option SessionActorAddr :=
  (registry.get tenantId clientId).map fun wrapper =>
    wrapper.sessionActorMessageRecipient

def insert (wrapper : SessionActorRecipientWrapper)
    (registry : SessionRegistry) : SessionRegistry where
  sessions := registry.sessions.setAt tenantId clientId wrapper

variable (sessionInstanceId : SessionInstanceId)

def removeIf (registry : SessionRegistry) : SessionRegistry where
  sessions := registry.sessions.alterAt tenantId clientId fun wrapper =>
    if wrapper.sessionInstanceId = sessionInstanceId then none else some wrapper

/-- The session actors that a handler tells to stop. -/
abbrev Stopped := List SessionActorAddr

/-- `ForceStopWithSessionService` never changes the registry. -/
def forceStopWithSessionService (registry : SessionRegistry) : Stopped :=
  match registry.get tenantId clientId with
  | none => []
  | some session =>
    if sessionInstanceId = session.sessionInstanceId then
      [session.sessionActorMessageRecipient]
    else
      []

def removeExpiredSession (registry : SessionRegistry) :
    Except SessionManagerError (SessionRegistry × Stopped) :=
  if registry.sessions.hasOuter tenantId then
    match registry.get tenantId clientId with
    | none => .error (.sessionNotExisted clientId)
    | some session =>
      if session.sessionInstanceId ≠ sessionInstanceId then
        .ok (registry, [])
      else
        .ok (registry.removeIf tenantId clientId sessionInstanceId,
          [session.sessionActorMessageRecipient])
  else
    .error (.tenantNotExisted tenantId)

def removeSession (registry : SessionRegistry) : Except SessionManagerError SessionRegistry :=
  if registry.sessions.hasOuter tenantId then
    .ok (registry.removeIf tenantId clientId sessionInstanceId)
  else
    .error (.tenantNotExisted tenantId)

@[simp] theorem get_insert_self
    (wrapper : SessionActorRecipientWrapper) (registry : SessionRegistry) :
    (registry.insert tenantId clientId wrapper).get tenantId clientId = some wrapper :=
  NestedMap.getAt_setAt_self _ _ _ _

theorem get_removeIf_self (registry : SessionRegistry) :
    (registry.removeIf tenantId clientId sessionInstanceId).get tenantId clientId =
      (registry.get tenantId clientId).filter fun wrapper =>
        wrapper.sessionInstanceId ≠ sessionInstanceId := by
  rw [get, removeIf, NestedMap.getAt_alterAt_self]
  rw [get]
  cases registry.sessions.getAt tenantId clientId with
  | none => rfl
  | some wrapper =>
    by_cases owned : wrapper.sessionInstanceId = sessionInstanceId <;>
      simp [Option.filter]

variable {tenantId clientId otherTenant otherClient : String}

theorem get_removeIf_of_ne (different : (otherTenant, otherClient) ≠ (tenantId, clientId))
    (sessionInstanceId : SessionInstanceId) (registry : SessionRegistry) :
    (registry.removeIf tenantId clientId sessionInstanceId).get otherTenant otherClient =
      registry.get otherTenant otherClient :=
  NestedMap.getAt_alterAt_of_ne different _ _

variable {sessionInstanceId : SessionInstanceId} {registry : SessionRegistry}
  {wrapper : SessionActorRecipientWrapper}

theorem get_of_removeIf
    (kept : (registry.removeIf tenantId clientId sessionInstanceId).get otherTenant
      otherClient = some wrapper) :
    registry.get otherTenant otherClient = some wrapper := by
  by_cases same : (otherTenant, otherClient) = (tenantId, clientId)
  · cases same
    rw [get_removeIf_self] at kept
    exact (Option.filter_eq_some_iff.mp kept).1
  · rw [get_removeIf_of_ne same] at kept
    exact kept

theorem get_removeIf_of_instance (found : registry.get otherTenant otherClient = some wrapper)
    (other : wrapper.sessionInstanceId ≠ sessionInstanceId) :
    (registry.removeIf tenantId clientId sessionInstanceId).get otherTenant otherClient =
      some wrapper := by
  by_cases same : (otherTenant, otherClient) = (tenantId, clientId)
  · cases same
    rw [get_removeIf_self, found]
    simp [other]
  · rw [get_removeIf_of_ne same]
    exact found

theorem mem_forceStopWithSessionService {addr : SessionActorAddr}
    (stopped : addr ∈ registry.forceStopWithSessionService tenantId clientId sessionInstanceId) :
    addr.sessionInstanceId = sessionInstanceId := by
  rw [forceStopWithSessionService] at stopped
  split at stopped
  · cases stopped
  · rename_i session found
    split at stopped
    · rename_i owned
      cases List.mem_singleton.mp stopped
      rw [session.startedFor, owned]
    · cases stopped

/-- The removal of an expired session reaches only an actor of the instance that it
names, and keeps the entries of all others. -/
theorem removeExpiredSession_ok {next : SessionRegistry} {stopped : Stopped}
    (handled : registry.removeExpiredSession tenantId clientId sessionInstanceId =
      .ok (next, stopped)) :
    (∀ addr ∈ stopped, addr.sessionInstanceId = sessionInstanceId) ∧
      ∀ otherTenant otherClient wrapper, registry.get otherTenant otherClient = some wrapper →
          wrapper.sessionInstanceId ≠ sessionInstanceId →
            next.get otherTenant otherClient = some wrapper := by
  rw [removeExpiredSession] at handled
  split at handled
  · split at handled
    · cases handled
    · rename_i session found
      split at handled
      · cases handled
        exact ⟨by simp, fun _ _ _ kept _ => kept⟩
      · rename_i owned
        cases handled
        constructor
        · intro addr member
          cases List.mem_singleton.mp member
          rw [session.startedFor]
          exact not_not.mp owned
        · intro otherTenant otherClient wrapper kept other
          exact get_removeIf_of_instance kept other
  · cases handled

end SessionRegistry

end YedMQ
