import YedMQ.Raft.SessionState.Effects
import YedMQ.Session.ConcurrentCreations

/-! # The cleanup of expired sessions

Every thirty seconds a session manager scans the replicated session states for sessions
whose lifetime is over. For each of them it looks for the session actor in its copy of the
actor map, asks the node that runs the actor to stop it, and deletes the session state if
the session is still disconnected since the time that the scan has read. Nothing is locked
in between, and clients may reconnect on any node.

The model follows one client. The nodes share the two replicated machines, and each has
its own registry and its own creations. A cleanup remembers which session actors have been
started since its scan, which it has stopped, and what it has deleted.
-/

namespace YedMQ.SessionManager

open Foundation Raft YedMQ
open SessionState (SessionStateRequest)

/-- The client, and the settings of the nodes. -/
structure Client where
  tenantId : String
  clientId : String
  sessionTtl : Nat
  inflightRetryIntervalSecs : Nat

def Client.context (client : Client) (nodeId : NodeId) : Context where
  tenantId := client.tenantId
  clientId := client.clientId
  nodeId := nodeId
  sessionTtl := client.sessionTtl
  inflightRetryIntervalSecs := client.inflightRetryIntervalSecs

/-- The await at which a cleanup is suspended. -/
inductive CleanupProgress where
  | lookingUp
  | stopping
  | deleting
  | finished
deriving DecidableEq, Repr

/-- A session actor that was started for a client, and whether its session outlives the
connection. -/
structure StartedSession where
  instanceId : SessionInstanceId
  persistent : Bool
deriving DecidableEq, Repr

/-- A session state that was deleted: since when it was disconnected, and whether the client
had reconnected to a persistent session in the meantime. -/
structure Removal where
  disconnectedAt : Option Nat
  reconnected : Bool
deriving DecidableEq, Repr

structure Scan where
  now : Nat
  /-- The time of disconnection that the scan has found. -/
  disconnectedAt : Nat
  /-- The last entry of the actor map at the time of the scan. -/
  lastApplied : Option LogId
deriving DecidableEq

structure Cleanup extends Scan where
  progress : CleanupProgress
  /-- The entry of the actor map that the cleanup has found. -/
  target : Option SessionActorMapEntry
  /-- The session actors that have been started since the scan. -/
  started : List StartedSession
  /-- The session actors that the cleanup has told to stop. -/
  stopped : List SessionActorAddr
  removal : Option Removal
deriving DecidableEq

structure Cluster where
  nodes : List NodeId
  actorMap : StateMachineData SessionActorMapStorage
  /-- The actor map after each entry, which nodes may still have. -/
  pastMaps : List SessionActorMapStorage
  sessionStates : SessionStateStorage
  registries : NodeId → SessionRegistry
  creations : NodeId → List Creation
  /-- The latest time that a creation or a scan has read. -/
  clock : Nat
  cleanups : List Cleanup

namespace Cluster

def new (nodes : List NodeId) : Cluster where
  nodes := nodes
  actorMap := SessionActorMap.initial
  pastMaps := [SessionActorMap.initial.state]
  sessionStates := SessionStateStorage.new
  registries := fun _ => SessionRegistry.new
  creations := fun _ => []
  clock := 0
  cleanups := []

def view (nodeId : NodeId) (cluster : Cluster) : Manager where
  actorMap := cluster.actorMap
  sessionStates := cluster.sessionStates
  registry := cluster.registries nodeId
  creations := cluster.creations nodeId

def absorb (nodeId : NodeId) (manager : Manager) (cluster : Cluster) : Cluster :=
  { cluster with
    actorMap := manager.actorMap
    pastMaps := manager.actorMap.state :: cluster.pastMaps
    sessionStates := manager.sessionStates
    registries := Function.update cluster.registries nodeId manager.registry
    creations := Function.update cluster.creations nodeId manager.creations }

def sessionState (client : Client) (cluster : Cluster) : Option SessionState :=
  cluster.sessionStates.getSessionState client.tenantId client.clientId

def setCleanup (number : Nat) (cleanup : Cleanup) (cluster : Cluster) : Cluster :=
  { cluster with cleanups := cluster.cleanups.modify number fun _ => cleanup }

def noteStarted (started : Option StartedSession) (cluster : Cluster) : Cluster :=
  { cluster with
    cleanups := cluster.cleanups.map fun cleanup =>
      { cleanup with started := cleanup.started ++ started.toList } }

def noteClock (now : Nat) (cluster : Cluster) : Cluster :=
  { cluster with clock := max cluster.clock now }

end Cluster

open Cluster

def Manager.starting (number : Nat) (manager : Manager) : Option StartedSession :=
  (manager.inserting number).bind fun instanceId =>
    manager.creations[number]?.map fun creation =>
      ⟨instanceId, !creation.message.cleanSession⟩

def startedBy (manager : Manager) : Input → Option StartedSession
  | .answer number _ false => manager.starting number
  | _ => none

def clockOf : Input → Nat
  | .answer _ now _ => now
  | _ => 0

variable (client : Client)

def scanned (now : Nat) (cluster : Cluster) : Option Cleanup :=
  (cluster.sessionState client).bind fun state =>
    (state.expiredDisconnectedAt now client.sessionTtl).map fun disconnectedAt =>
      { now := now
        disconnectedAt := disconnectedAt
        lastApplied := cluster.actorMap.lastAppliedLogId
        progress := .lookingUp
        target := none
        started := []
        stopped := []
        removal := none }

def Cleanup.lookUp (actorMap : SessionActorMapStorage) (cleanup : Cleanup) :
    Cleanup :=
  match actorMap.getSessionActorMap client.tenantId client.clientId with
  | some entry => { cleanup with progress := .stopping, target := some entry }
  | none => { cleanup with progress := .deleting }

def Cleanup.forceStop (registries : NodeId → SessionRegistry)
    (entry : SessionActorMapEntry) (cleanup : Cleanup) : Cleanup :=
  { cleanup with
    stopped := cleanup.stopped ++
      (registries entry.nodeId).forceStopWithSessionService client.tenantId client.clientId
        entry.instanceId }

def Cleanup.deletion (cleanup : Cleanup) : SessionStateRequest :=
  .deleteSessionState client.tenantId client.clientId (some cleanup.disconnectedAt)

def Cleanup.removed (before after : Option SessionState) (cleanup : Cleanup) :
    Option Removal :=
  match before, after with
  | some state, none =>
    some ⟨state.disconnectedAt, cleanup.started.any StartedSession.persistent⟩
  | _, _ => cleanup.removal

inductive ClusterInput where
  | node (nodeId : NodeId) (input : Input)
  /-- A scan reads the session states; it has read the time before. -/
  | scan (now : Nat)
  /-- A cleanup reads a copy of the actor map, of some age, or fails to. -/
  | lookUp (number : Nat) (age : Option Nat)
  /-- The request to stop the session actor arrives. It may be sent again. -/
  | forceStop (number : Nat)
  /-- The request was answered, or is given up. -/
  | stopEnds (number : Nat)
  /-- The delete command of a cleanup ends. -/
  | delete (number : Nat) (logId : LogId) (reading : SessionState.Reading) (outcome : WriteOutcome)

def nodeStep (nodeId : NodeId) (input : Input) (cluster : Cluster) :
    Option Cluster :=
  if nodeId ∈ cluster.nodes then
    (step (client.context nodeId) (cluster.view nodeId) input).map fun manager =>
      ((cluster.absorb nodeId manager).noteStarted
        (startedBy (cluster.view nodeId) input)).noteClock (clockOf input)
  else
    none

def lookUpStep (number : Nat) (age : Option Nat) (cleanup : Cleanup)
    (cluster : Cluster) : Option Cluster :=
  match cleanup.progress, age with
  | .lookingUp, some age => cluster.pastMaps[age]?.map fun actorMap =>
    cluster.setCleanup number (cleanup.lookUp client actorMap)
  | .lookingUp, none => some (cluster.setCleanup number { cleanup with progress := .deleting })
  | _, _ => none

def deleteStep (number : Nat) (logId : LogId) (reading : SessionState.Reading)
    (outcome : WriteOutcome) (cleanup : Cleanup) (cluster : Cluster) : Option Cluster :=
  match cleanup.progress, outcome with
  | .deleting, .lost => some (cluster.setCleanup number { cleanup with progress := .finished })
  | .deleting, _ =>
    match SessionState.applyRequest reading logId cluster.sessionStates
        (cleanup.deletion client) with
    | .ok (sessionStates, _) =>
      let next := { cluster with sessionStates := sessionStates }
      some (next.setCleanup number { cleanup with
        progress := .finished
        removal := cleanup.removed (cluster.sessionState client) (next.sessionState client) })
    | .error _ => none
  | _, _ => none

namespace Cluster

def step (client : Client) (cluster : Cluster) : ClusterInput → Option Cluster
  | .node nodeId input => nodeStep client nodeId input cluster
  | .scan now =>
    (scanned client now cluster).map fun cleanup =>
      { cluster.noteClock now with cleanups := cluster.cleanups ++ [cleanup] }
  | .lookUp number age =>
    cluster.cleanups[number]?.bind fun cleanup =>
      lookUpStep client number age cleanup cluster
  | .forceStop number =>
    cluster.cleanups[number]?.bind fun cleanup =>
      cleanup.target.map fun entry =>
        cluster.setCleanup number (cleanup.forceStop client cluster.registries entry)
  | .stopEnds number =>
    cluster.cleanups[number]?.bind fun cleanup =>
      if cleanup.progress = .stopping then
        some (cluster.setCleanup number { cleanup with progress := .deleting })
      else
        none
  | .delete number logId reading outcome =>
    cluster.cleanups[number]?.bind fun cleanup =>
      deleteStep client number logId reading outcome cleanup cluster

end Cluster

/-! ## What is to be shown -/

/-- No session actor that was started after the scan is stopped by the cleanup, and what the
cleanup has deleted was disconnected since the time that the scan had read and had no
persistent successor. -/
structure Cleanup.Spares (cleanup : Cleanup) : Prop where
  stopped : ∀ addr ∈ cleanup.stopped, ∀ started ∈ cleanup.started,
    addr.sessionInstanceId ≠ started.instanceId
  removal : ∀ removal, cleanup.removal = some removal →
    removal.disconnectedAt = some cleanup.disconnectedAt ∧ removal.reconnected = false

def SparesReconnected (cluster : Cluster) : Prop :=
  ∀ cleanup ∈ cluster.cleanups, cleanup.Spares

end YedMQ.SessionManager
