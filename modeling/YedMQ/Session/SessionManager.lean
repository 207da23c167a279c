import YedMQ.Raft.SessionActorMap.Ownership
import YedMQ.Raft.SessionState.StateMachine

/-! # The session manager of a node

Several `CreateSessionMessage` handlers for one client may run at once. Each of them
registers an instance in the actor map, prepares the session state, makes sure that its
instance still owns the client, starts a session actor and enters it into the registry;
then it looks at the owner once more and takes the entry back if it has changed.

A handler is suspended at its awaits only. A `Progress` says at which await it is and
holds the local variables that are used afterwards. A linearizable read is two steps: the
value is fixed at one moment and delivered at a later one.
-/

namespace YedMQ.SessionManager

open Foundation Raft YedMQ
open SessionActorMap (SessionActorMapRequest SessionManagerMessage)
open SessionState (SessionStateRequest)

structure Context where
  tenantId : String
  clientId : String
  nodeId : NodeId
  sessionTtl : Nat
  inflightRetryIntervalSecs : Nat

structure CreateSessionMessage where
  cleanStart : Bool
  cleanSession : Bool
  protocolVersion : ProtocolVersion
  sessionExpiryInterval : Option UInt32
deriving DecidableEq

/-- The await at which a handler is suspended. -/
inductive Progress where
  | registering
  | deleting (instanceId : SessionInstanceId)
  | recovering (instanceId : SessionInstanceId) (read : Option (Option SessionState))
  | deletingExpired (instanceId : SessionInstanceId) (disconnectedAt : Nat)
  | creating (instanceId : SessionInstanceId)
  | checking (instanceId : SessionInstanceId) (sessionPresent : Bool)
      (read : Option (Option SessionInstanceId))
  | rechecking (instanceId : SessionInstanceId) (sessionPresent : Bool)
      (replacedSession : Option SessionActorRecipientWrapper)
      (read : Option (Option SessionInstanceId))
  | returned (instanceId : Option SessionInstanceId) (result : Except SessionManagerError Bool)
deriving DecidableEq

structure Creation where
  message : CreateSessionMessage
  progress : Progress

structure Manager where
  actorMap : StateMachineData SessionActorMapStorage
  sessionStates : SessionStateStorage
  registry : SessionRegistry
  creations : List Creation

namespace Manager

def new : Manager where
  actorMap := SessionActorMap.initial
  sessionStates := SessionStateStorage.new
  registry := SessionRegistry.new
  creations := []

def owner (context : Context) (manager : Manager) : Option SessionInstanceId :=
  SessionActorMap.owner context.tenantId context.clientId manager.actorMap.state

def entry (context : Context) (manager : Manager) : Option SessionActorRecipientWrapper :=
  manager.registry.get context.tenantId context.clientId

def progressAt (number : Nat) (manager : Manager) : Option Progress :=
  manager.creations[number]?.map Creation.progress

def setProgress (number : Nat) (progress : Progress) (manager : Manager) : Manager :=
  { manager with
    creations := manager.creations.modify number fun creation =>
      { creation with progress := progress } }

def setRegistry (registry : SessionRegistry) (manager : Manager) : Manager :=
  { manager with registry := registry }

def commit (context : Context) (entry : Entry SessionActorMapRequest) (now : Nat)
    (manager : Manager) : Option Manager :=
  if manager.actorMap.lastAppliedLogId.all (fun last => last.index < entry.logId.index) then
    (SessionActorMap.step ⟨context.nodeId, context.sessionTtl⟩ manager.actorMap
      (entry, fun _ => now)).map fun actorMap => { manager with actorMap := actorMap }
  else
    none

def commitState (logId : LogId) (reading : SessionState.Reading)
    (request : SessionStateRequest) (manager : Manager) : Option Manager :=
  match SessionState.applyRequest reading logId manager.sessionStates request with
  | .ok (sessionStates, _) => some { manager with sessionStates := sessionStates }
  | .error _ => none

end Manager

open Manager

/-! ## The handler between its awaits -/

def afterRegistration (message : CreateSessionMessage) (instanceId : SessionInstanceId) :
    Progress :=
  if message.cleanStart then .deleting instanceId
  else if !message.cleanSession then .recovering instanceId none
  else .deleting instanceId

/-- After an unconditional delete, whose result is not looked at. -/
def afterDelete (message : CreateSessionMessage) (instanceId : SessionInstanceId) :
    Progress :=
  if message.cleanStart && !message.cleanSession then .creating instanceId
  else .checking instanceId false none

variable (context : Context)

def afterRecovery (now : Nat) (instanceId : SessionInstanceId) : Option SessionState → Progress
  | some state =>
    match state.expiredDisconnectedAt now context.sessionTtl with
    | some disconnectedAt => .deletingExpired instanceId disconnectedAt
    | none => .checking instanceId true none
  | none => .creating instanceId

def awaitedCommand (message : CreateSessionMessage) : Progress → Option SessionStateRequest
  | .deleting _ => some (.deleteSessionState context.tenantId context.clientId none)
  | .deletingExpired _ disconnectedAt =>
    some (.deleteSessionState context.tenantId context.clientId (some disconnectedAt))
  | .creating _ =>
    some (.createSessionState context.tenantId context.clientId
      context.inflightRetryIntervalSecs (some message.protocolVersion)
      message.sessionExpiryInterval)
  | _ => none

def afterCommand (message : CreateSessionMessage) (outcome : WriteOutcome) : Progress → Progress
  | .deleting instanceId => afterDelete message instanceId
  | .deletingExpired instanceId _ => .creating instanceId
  | .creating instanceId =>
    if outcome = .committed then .checking instanceId false none
    else .returned (some instanceId) (.error .sessionStateRaftError)
  | other => other

variable (number : Nat)

def insertSession (instanceId : SessionInstanceId)
    (sessionPresent : Bool) (manager : Manager) : Manager :=
  (manager.setRegistry (manager.registry.insert context.tenantId context.clientId
    (.start instanceId))).setProgress number
      (.rechecking instanceId sessionPresent (manager.entry context) none)

def restore (previous : SessionActorRecipientWrapper)
    (registry : SessionRegistry) : SessionRegistry :=
  match registry.get context.tenantId context.clientId with
  | some _ => registry
  | none => registry.insert context.tenantId context.clientId previous

/-- Take the own entry back, and restore the replaced one if it belongs to the owner. -/
def rollback (instanceId : SessionInstanceId)
    (replacedSession : Option SessionActorRecipientWrapper)
    (current : Option (Option SessionInstanceId)) (registry : SessionRegistry) :
    SessionRegistry :=
  let registry := registry.removeIf context.tenantId context.clientId instanceId
  match replacedSession with
  | some previous =>
    if current = some (some previous.sessionInstanceId) then
      restore context previous registry
    else
      registry
  | none => registry

/-- A handler goes on with the answer of a linearizable read: `none` if the read
failed. -/
def afterRead (now : Nat) (manager : Manager) : Progress → Bool → Option Manager
  | .recovering instanceId (some state), false =>
    some (manager.setProgress number (afterRecovery context now instanceId state))
  | .recovering instanceId _, true =>
    some (manager.setProgress number (.returned (some instanceId) (.error .sessionStateRaftError)))
  | .checking instanceId sessionPresent (some current), false =>
    if current = some instanceId then
      some (insertSession context number instanceId sessionPresent manager)
    else
      some (manager.setProgress number (.returned (some instanceId) (.error .sessionSuperseded)))
  | .checking instanceId _ _, true =>
    some (manager.setProgress number (.returned (some instanceId) (.error .sessionActorMapError)))
  | .rechecking instanceId sessionPresent replacedSession (some current), false =>
    if current = some instanceId then
      some (manager.setProgress number (.returned (some instanceId) (.ok sessionPresent)))
    else
      some ((manager.setRegistry (rollback context instanceId replacedSession
        (some current) manager.registry)).setProgress number
          (.returned (some instanceId) (.error .sessionSuperseded)))
  | .rechecking instanceId _ replacedSession _, true =>
    some ((manager.setRegistry (rollback context instanceId replacedSession none
      manager.registry)).setProgress number
        (.returned (some instanceId) (.error .sessionActorMapError)))
  | _, _ => none

def linearized (manager : Manager) : Progress → Option Progress
  | .recovering instanceId none =>
    some (.recovering instanceId (some
      (manager.sessionStates.getSessionState context.tenantId context.clientId)))
  | .checking instanceId sessionPresent none =>
    some (.checking instanceId sessionPresent (some (manager.owner context)))
  | .rechecking instanceId sessionPresent replacedSession none =>
    some (.rechecking instanceId sessionPresent replacedSession (some (manager.owner context)))
  | _ => none

/-! ## Interleavings -/

inductive Input where
  /-- A `CreateSessionMessage` arrives. -/
  | create (message : CreateSessionMessage)
  /-- The registration of a handler ends. -/
  | register (number : Nat) (logId : LogId) (now : Nat) (outcome : WriteOutcome)
  /-- A session-state command of a handler ends. -/
  | command (number : Nat) (logId : LogId) (reading : SessionState.Reading) (outcome : WriteOutcome)
  /-- The value of a read is fixed. -/
  | linearize (number : Nat)
  /-- A read is answered, or fails. -/
  | answer (number : Nat) (now : Nat) (failed : Bool)
  /-- Another entry of the actor map's log is applied. -/
  | actorMapEntry (entry : Entry SessionActorMapRequest) (now : Nat)
  /-- Another request of the session states' log is applied. -/
  | sessionStateRequest (logId : LogId) (reading : SessionState.Reading)
      (request : SessionStateRequest)
  /-- The manager handles a stop message. -/
  | stop (message : SessionManagerMessage)
  /-- The manager removes a session whose actor has stopped. -/
  | removeSession (instanceId : SessionInstanceId)

def registerStep (logId : LogId) (now : Nat)
    (outcome : WriteOutcome) (creation : Creation) (manager : Manager) :
    Option Manager :=
  let registration : Entry SessionActorMapRequest :=
    ⟨logId, .normal (.registerSession context.tenantId context.clientId context.nodeId)⟩
  match creation.progress, outcome with
  | .registering, .committed =>
    (manager.commit context registration now).map fun manager =>
      manager.setProgress number (afterRegistration creation.message ⟨logId.index⟩)
  | .registering, .unacknowledged =>
    (manager.commit context registration now).map fun manager =>
      manager.setProgress number (.returned none (.error .sessionActorMapError))
  | .registering, .lost =>
    some (manager.setProgress number (.returned none (.error .sessionActorMapError)))
  | _, _ => none

def commandStep (logId : LogId)
    (reading : SessionState.Reading) (outcome : WriteOutcome) (creation : Creation)
    (manager : Manager) : Option Manager :=
  (awaitedCommand context creation.message creation.progress).bind fun request =>
    let next := afterCommand creation.message outcome creation.progress
    if outcome = .lost then
      some (manager.setProgress number next)
    else
      (manager.commitState logId reading request).map fun manager =>
        manager.setProgress number next

def step (manager : Manager) : Input → Option Manager
  | .create message =>
    some { manager with creations := manager.creations ++ [⟨message, .registering⟩] }
  | .register number logId now outcome =>
    manager.creations[number]?.bind fun creation =>
      registerStep context number logId now outcome creation manager
  | .command number logId reading outcome =>
    manager.creations[number]?.bind fun creation =>
      commandStep context number logId reading outcome creation manager
  | .linearize number =>
    (manager.progressAt number).bind fun progress =>
      (linearized context manager progress).map fun next =>
        manager.setProgress number next
  | .answer number now failed =>
    (manager.progressAt number).bind fun progress =>
      afterRead context number now manager progress failed
  | .actorMapEntry entry now => manager.commit context entry now
  | .sessionStateRequest logId reading request =>
    manager.commitState logId reading request
  | .stop message => some (manager.setRegistry (message.handle manager.registry).1)
  | .removeSession instanceId =>
    match manager.registry.removeSession context.tenantId context.clientId instanceId with
    | .ok registry => some (manager.setRegistry registry)
    | .error _ => some manager

end YedMQ.SessionManager
