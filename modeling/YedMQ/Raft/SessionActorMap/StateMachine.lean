import YedMQ.Raft.StateMachine
import YedMQ.Session.SessionActorMap

/-! # The session-actor-map machine

Registrations, removals and lease renewals of sessions. The replica whose node runs a
replaced or expired session also tells its session manager.
-/

namespace YedMQ.Raft.SessionActorMap

open Foundation YedMQ

inductive SessionActorMapRequest where
  | registerSession (tenantId sessionId : String) (nodeId : NodeId)
  | unregisterSession (tenantId sessionId : String) (sessionInstanceId : SessionInstanceId)
  | cleanExpiredSessions (sessions : List ExpiredSession)
  | sessionLeaseRenewRequest (sessions : List RenewSession)
deriving DecidableEq

inductive SessionActorMapResponse where
  | none
  | registered (instanceId : SessionInstanceId)
deriving DecidableEq, Repr

inductive SessionManagerMessage where
  | forceStopWithSessionService (tenantId clientId : String) (sessionInstanceId : SessionInstanceId)
  | removeExpiredSession (tenantId clientId : String) (sessionInstanceId : SessionInstanceId)
deriving DecidableEq, Repr

structure Applied where
  reply : SessionActorMapResponse
  sent : List SessionManagerMessage
deriving DecidableEq

structure Replica where
  nodeId : NodeId
  sessionTtl : Nat

/-- Clock readings, in seconds, made while one entry is applied. -/
abbrev Reading := Nat → Nat

def cleanExpiredSessions (sessions : List ExpiredSession)
    (storage : SessionActorMapStorage) : SessionActorMapStorage :=
  sessions.foldl (fun storage session =>
    storage.unregisterSessionActor session.tenantId session.sessionId
      session.sessionInstanceId) storage

/-- The machine has no error of its own. -/
def applyRequest (replica : Replica) (reading : Reading) (logId : LogId)
    (storage : SessionActorMapStorage) :
    SessionActorMapRequest → Except Empty (SessionActorMapStorage × Applied)
  | .registerSession tenantId sessionId nodeId =>
    let instanceId : SessionInstanceId := { logIndex := logId.index }
    let (storage, previousEntry) := storage.registerSessionActor reading tenantId
      sessionId nodeId instanceId replica.sessionTtl
    let sent :=
      match previousEntry with
      | some previous =>
        if previous.nodeId = replica.nodeId ∧ previous.instanceId ≠ instanceId then
          [.forceStopWithSessionService tenantId sessionId previous.instanceId]
        else
          []
      | none => []
    .ok (storage, ⟨.registered instanceId, sent⟩)
  | .unregisterSession tenantId sessionId sessionInstanceId =>
    .ok (storage.unregisterSessionActor tenantId sessionId sessionInstanceId, ⟨.none, []⟩)
  | .cleanExpiredSessions sessions =>
    let sent := (sessions.filter fun session =>
      session.nodeId = replica.nodeId).map fun session =>
        .removeExpiredSession session.tenantId session.sessionId session.sessionInstanceId
    .ok (cleanExpiredSessions sessions storage, ⟨.none, sent⟩)
  | .sessionLeaseRenewRequest sessions =>
    .ok (storage.sessionLeaseRenew reading sessions replica.sessionTtl, ⟨.none, []⟩)

def initial : StateMachineData SessionActorMapStorage :=
  .new SessionActorMapStorage.new

def step (replica : Replica) : StateMachineData SessionActorMapStorage →
    Entry SessionActorMapRequest × Reading → Option (StateMachineData SessionActorMapStorage) :=
  StateMachineData.step (applyRequest replica) ⟨.none, []⟩

end YedMQ.Raft.SessionActorMap
