import YedMQ.Router.Route
import YedMQ.Semantics.WorkerPool
import YedMQ.Session.SessionActor.Footprints

/-! # Durable routes between nodes

A message for a session on another node is kept in the outbox of the source node until the
destination node has taken it into its inbox, and there until the session accepts it. Each
node stores a row and the payload under keys of its own. Workers dispatch and process the
rows: one is spawned when a row is written, and more by the periodic scans. Each works on
a copy of the row that it was given or has read.

All rows and payloads of a route have its identifier, a fresh UUID, in their keys. So the
model follows one route, with every worker that ever has to do with it.
-/

namespace YedMQ.Router

open Raft Semantics

structure RouteRetryConfig where
  maxRetryCount : Nat := 120
  retryIntervalSeconds : Nat := 1
  messageTtlSeconds : Nat := 86400

inductive RouteInboxStatus where
  | pending
  | completed
deriving DecidableEq, Repr

structure DurableRoute where
  routeId : String
  destNodeId : NodeId
  targetClientId : String
  packet : Packet

def buildPacketKey (kind routeId : String) : String :=
  kind ++ ":" ++ routeId

/-- The fields of an outbox row that change, and its expiry time. -/
structure RouteOutboxItem where
  retryAt : Nat
  attempts : Nat
  expiryAt : Nat
deriving DecidableEq, Repr

structure RouteInboxItem where
  retryAt : Nat
  attempts : Nat
  expiryAt : Nat
  status : RouteInboxStatus
  completedAt : Option Nat
deriving DecidableEq, Repr

structure RoutePacketRequest where
  packet : Packet
  expiryAt : Nat
deriving DecidableEq, Repr

inductive RouteNode where
  | source
  | destination
deriving DecidableEq, Repr

/-- The kinds of workers. A handler answers the call with its number. -/
inductive RouteTask where
  | enqueue
  | dispatch
  | handler (call : Nat)
  | process
  | cleanup
deriving DecidableEq, Repr

def RouteTask.node : RouteTask → RouteNode
  | enqueue => .source
  | dispatch => .source
  | handler _ | process | cleanup => .destination

/-! ## Operations -/

inductive RouteOp where
  | now
  | increaseMessagesDropped
  | putPayload (node : RouteNode) (packet : Packet)
  | getPayload (node : RouteNode)
  | deletePayload (node : RouteNode)
  | getOutbox
  | putOutbox (item : RouteOutboxItem)
  | deleteOutbox
  | spawnOutboxDispatch (item : RouteOutboxItem)
  /-- Look for the destination in the cluster. -/
  | getNode
  | sendRequest (request : RoutePacketRequest)
  | awaitResponse (call : Nat)
  | publishToLocalSubscribers (packet : Packet)
  | getInbox
  | putInbox (item : RouteInboxItem)
  | deleteInbox
  | spawnInboxProcessing (item : RouteInboxItem)
  /-- Hand the packet to the session and wait until it has accepted it. -/
  | acceptRoutedPublish (packet : Packet)

abbrev RouteResult := Except RouterActorError Unit

def RouteOp.Answer : RouteOp → Type
  | now => Nat
  | increaseMessagesDropped => Unit
  | putPayload _ _ => RouteResult
  | getPayload _ => Except RouterActorError (Option Packet)
  | deletePayload _ => RouteResult
  | getOutbox => Except RouterActorError (Option RouteOutboxItem)
  | putOutbox _ => RouteResult
  | deleteOutbox => RouteResult
  | spawnOutboxDispatch _ => Unit
  | getNode => Bool
  | sendRequest _ => Nat
  | awaitResponse _ => RouteResult
  | publishToLocalSubscribers _ => RouteResult
  | getInbox => Except RouterActorError (Option RouteInboxItem)
  | putInbox _ => RouteResult
  | deleteInbox => RouteResult
  | spawnInboxProcessing _ => Unit
  | acceptRoutedPublish _ => RouteResult

/-- How the target session deals with a routed message: whether the message comes into its
inflight map or its pending queue, and what is reported. -/
structure SessionDelivery where
  registered : Bool
  result : RouteResult

section SessionDelivery

open SessionActor

variable (describe : SessionActorError → String) (events : List (Future.Event Op.Answer))
variable (result : Except SessionActorError OutboundPublishDeliveryStatus)

/-- What a delivery of the session actor is to the router. -/
def sessionDelivery : SessionDelivery where
  registered := events.any isRegistration
  result :=
    match result with
    | .ok _ => .ok ()
    | .error error => .error (.routedDelivery (describe error))

variable {events result}

/-- Whether the message was registered says how often it was. -/
theorem countP_isRegistration {publish : Publish} {context : OutboundPublishDeliveryContext}
    (follows : Future.Follows (deliverOutboundPublish publish context) events (.done result)) :
    events.countP isRegistration = (sessionDelivery describe events result).registered.toNat := by
  have once := countP_isRegistration_le context publish follows
  change events.countP isRegistration = (events.any isRegistration).toNat
  cases found : events.any isRegistration with
  | false => exact List.countP_eq_zero.mpr (List.any_eq_false.mp found)
  | true =>
    have some := List.countP_pos_iff.mpr (List.any_eq_true.mp found)
    exact le_antisymm once some

end SessionDelivery

def RouteOp.Choice : RouteOp → Type
  | now => Nat
  | putPayload _ _ | getPayload _ | deletePayload _ | getOutbox | putOutbox _ | deleteOutbox =>
    Option RouterActorError
  | getNode => Bool
  | awaitResponse _ => Option RouterActorError
  | publishToLocalSubscribers _ => SessionDelivery
  | getInbox | putInbox _ | deleteInbox => Option RouterActorError
  | acceptRoutedPublish _ => SessionDelivery
  | _ => Unit

abbrev RouteFut := Future RouteOp.Answer

abbrev nowSecs : RouteFut Nat :=
  Future.perform RouteOp.now

abbrev increaseMessagesDropped : RouteFut Unit :=
  Future.perform RouteOp.increaseMessagesDropped

variable (node : RouteNode)

abbrev putPayload (packet : Packet) : RouteFut RouteResult :=
  Future.perform (RouteOp.putPayload node packet)

abbrev getPayload : RouteFut (Except RouterActorError (Option Packet)) :=
  Future.perform (RouteOp.getPayload node)

abbrev deletePayload : RouteFut RouteResult :=
  Future.perform (RouteOp.deletePayload node)

abbrev getOutbox : RouteFut (Except RouterActorError (Option RouteOutboxItem)) :=
  Future.perform RouteOp.getOutbox

abbrev putOutbox (item : RouteOutboxItem) : RouteFut RouteResult :=
  Future.perform (RouteOp.putOutbox item)

abbrev deleteOutbox : RouteFut RouteResult :=
  Future.perform RouteOp.deleteOutbox

abbrev spawnOutboxDispatch (item : RouteOutboxItem) : RouteFut Unit :=
  Future.perform (RouteOp.spawnOutboxDispatch item)

abbrev getNode : RouteFut Bool :=
  Future.perform RouteOp.getNode

abbrev sendRequest (request : RoutePacketRequest) : RouteFut Nat :=
  Future.perform (RouteOp.sendRequest request)

abbrev awaitResponse (call : Nat) : RouteFut RouteResult :=
  Future.perform (RouteOp.awaitResponse call)

abbrev publishToLocalSubscribers (packet : Packet) : RouteFut RouteResult :=
  Future.perform (RouteOp.publishToLocalSubscribers packet)

abbrev getInbox : RouteFut (Except RouterActorError (Option RouteInboxItem)) :=
  Future.perform RouteOp.getInbox

abbrev putInbox (item : RouteInboxItem) : RouteFut RouteResult :=
  Future.perform (RouteOp.putInbox item)

abbrev deleteInbox : RouteFut RouteResult :=
  Future.perform RouteOp.deleteInbox

abbrev spawnInboxProcessing (item : RouteInboxItem) : RouteFut Unit :=
  Future.perform (RouteOp.spawnInboxProcessing item)

abbrev routeToLocalSessionDurable (packet : Packet) : RouteFut RouteResult :=
  Future.perform (RouteOp.acceptRoutedPublish packet)

/-! ## The source node -/

section Source

variable (config : RouteRetryConfig) (route : DurableRoute)

def routeToOtherNode (request : RoutePacketRequest) : RouteFut RouteResult := do
  let call ← sendRequest request
  awaitResponse call

def dropOutboxItem : RouteFut RouteResult := do
  increaseMessagesDropped
  let _ ← deleteOutbox
  let _ ← deletePayload .source
  return .ok ()

def retryOutboxItem (now : Nat) (item : RouteOutboxItem) (error : RouterActorError) :
    RouteFut RouteResult := do
  match ← putOutbox { item with
      attempts := item.attempts + 1
      retryAt := now + config.retryIntervalSeconds } with
  | .error failure => return .error failure
  | .ok () => return .error error

def dispatchOutboxItem (item : RouteOutboxItem) : RouteFut RouteResult := do
  let now ← nowSecs
  if item.expiryAt ≤ now ∨ config.maxRetryCount ≤ item.attempts then
    dropOutboxItem
  else if now < item.retryAt then
    return .ok ()
  else if ← getNode then
    match ← getPayload .source with
    | .error error => return .error error
    | .ok none => return .error (.payloadStore
        ("route payload " ++ buildPacketKey "route-outbox" route.routeId ++ " not found"))
    | .ok (some packet) =>
      if packet.isExpired now then
        dropOutboxItem
      else
        match ← routeToOtherNode ⟨packet, item.expiryAt⟩ with
        | .ok () =>
          match ← deleteOutbox with
          | .error error => return .error error
          | .ok () =>
            let _ ← deletePayload .source
            return .ok ()
        | .error error => retryOutboxItem config now item error
  else
    retryOutboxItem config now item (.grpc ("node " ++ toString route.destNodeId ++ " not found"))

def enqueueDurableRemoteRoute : RouteFut RouteResult := do
  let now ← nowSecs
  let expiryAt := route.packet.routeExpiryAt config.messageTtlSeconds now
  if expiryAt ≤ now then
    increaseMessagesDropped
    return .ok ()
  else
    match ← putPayload .source route.packet with
    | .error error => return .error error
    | .ok () =>
      let item : RouteOutboxItem := { retryAt := now, attempts := 0, expiryAt := expiryAt }
      match ← putOutbox item with
      | .error error =>
        let _ ← deletePayload .source
        return .error error
      | .ok () =>
        spawnOutboxDispatch item
        return .ok ()

def processRouteOutbox : RouteFut RouteResult := do
  match ← getOutbox with
  | .error error => return .error error
  | .ok none => return .ok ()
  | .ok (some item) => dispatchOutboxItem config route item

end Source

/-! ## The destination node -/

section Destination

variable (config : RouteRetryConfig) (route : DurableRoute)

def completeInboxItem (now : Nat) (item : RouteInboxItem) : RouteFut RouteResult := do
  match ← putInbox { item with status := .completed, completedAt := some now } with
  | .error error => return .error error
  | .ok () =>
    let _ ← deletePayload .destination
    return .ok ()

def processInboxItem (item : RouteInboxItem) : RouteFut RouteResult := do
  if item.status = .completed then
    return .ok ()
  else
    let now ← nowSecs
    if item.expiryAt ≤ now ∨ config.maxRetryCount ≤ item.attempts then
      increaseMessagesDropped
      completeInboxItem now item
    else if now < item.retryAt then
      return .ok ()
    else
      match ← getPayload .destination with
      | .error error => return .error error
      | .ok none => return .error (.payloadStore
          ("route payload " ++ buildPacketKey "route-inbox" route.routeId ++ " not found"))
      | .ok (some packet) =>
        if packet.isExpired now then
          increaseMessagesDropped
          completeInboxItem now item
        else
          match ← routeToLocalSessionDurable packet with
          | .ok () => completeInboxItem now item
          | .error error =>
            match ← putInbox { item with
                attempts := item.attempts + 1
                retryAt := now + config.retryIntervalSeconds } with
            | .error failure => return .error failure
            | .ok () => return .error error

def newInboxItem (now : Nat) (request : RoutePacketRequest) : RouteInboxItem where
  retryAt := now
  attempts := 0
  expiryAt := if 0 < request.expiryAt then request.expiryAt else now + config.messageTtlSeconds
  status := .pending
  completedAt := none

def acceptRouteFromOtherNode (request : RoutePacketRequest) : RouteFut RouteResult := do
  let first ← nowSecs
  if request.packet.isExpired first then
    increaseMessagesDropped
    return .ok ()
  else
    match ← getInbox with
    | .error error => return .error error
    | .ok (some _) => return .ok ()
    | .ok none =>
      match ← putPayload .destination request.packet with
      | .error error => return .error error
      | .ok () =>
        let now ← nowSecs
        let item := newInboxItem config now request
        match ← putInbox item with
        | .error error => return .error error
        | .ok () =>
          spawnInboxProcessing item
          return .ok ()

/-- The handler of the router actor. Its first branch is meant for messages without a
target. -/
def routeFromOtherNode (request : RoutePacketRequest) : RouteFut RouteResult :=
  if route.targetClientId.isEmpty then
    publishToLocalSubscribers request.packet
  else
    acceptRouteFromOtherNode config request

def processRouteInbox : RouteFut RouteResult := do
  match ← getInbox with
  | .error error => return .error error
  | .ok none => return .ok ()
  | .ok (some item) => processInboxItem config route item

def cleanupCompletedInboxItems : RouteFut RouteResult := do
  let now ← nowSecs
  match ← getInbox with
  | .error error => return .error error
  | .ok none => return .ok ()
  | .ok (some item) =>
    match item.status, item.completedAt with
    | .completed, some completedAt =>
      if config.messageTtlSeconds ≤ now - completedAt then
        let _ ← deleteInbox
        return .ok ()
      else
        return .ok ()
    | _, _ => return .ok ()

end Destination

/-! ## The stores and the workers -/

structure RouteHistory where
  /-- The clock when the route was enqueued. -/
  enqueuedAt : Option Nat
  /-- The router has been told that the route is enqueued. -/
  enqueued : Bool
  /-- The latest time that a worker has read. -/
  latest : Nat
  /-- A row has been stored with as many attempts as are made. -/
  limitReached : Bool
  /-- The session has accepted the message. -/
  accepted : Bool
  /-- How often the message came into the inflight map or the pending queue. -/
  registrations : Nat
  /-- The inbox row has been completed. -/
  completed : Bool
  /-- The completed inbox row has been removed. -/
  removed : Bool
deriving DecidableEq, Repr

structure RouteState where
  outbox : Option RouteOutboxItem
  inbox : Option RouteInboxItem
  payloads : RouteNode → Option Packet
  calls : Nat
  /-- Requests on their way to the destination. -/
  sent : Nat → Option RoutePacketRequest
  responses : Nat → Option RouteResult
  history : RouteHistory

namespace RouteState

def new : RouteState where
  outbox := none
  inbox := none
  payloads := fun _ => none
  calls := 0
  sent := fun _ => none
  responses := fun _ => none
  history := {
    enqueuedAt := none
    enqueued := false
    latest := 0
    limitReached := false
    accepted := false
    registrations := 0
    completed := false
    removed := false }

variable (state : RouteState)

def setPayload (node : RouteNode) (packet : Option Packet) : RouteState :=
  { state with payloads := Function.update state.payloads node packet }

def setOutbox (item : Option RouteOutboxItem) : RouteState :=
  { state with outbox := item }

def setInbox (item : Option RouteInboxItem) : RouteState :=
  { state with inbox := item }

def setSent (call : Nat) (request : Option RoutePacketRequest) :
    RouteState :=
  { state with sent := Function.update state.sent call request }

def respond (call : Nat) (result : RouteResult) : RouteState :=
  { state with responses := Function.update state.responses call (some result) }

def record (change : RouteHistory → RouteHistory) : RouteState :=
  { state with history := change state.history }

end RouteState

def storing (failure : Option RouterActorError) (state changed : RouteState) :
    RouteState × RouteResult :=
  match failure with
  | none => (changed, .ok ())
  | some error => (state, .error error)

def reading {α : Type} (failure : Option RouterActorError) (value : α) :
    Except RouterActorError α :=
  match failure with
  | none => .ok value
  | some error => .error error

abbrev RouteWorker := Worker RouteOp.Answer RouteResult RouteTask

section Behaviour

variable (config : RouteRetryConfig) (route : DurableRoute)

def noteClock (task : RouteTask) (time : Nat) (history : RouteHistory) : RouteHistory :=
  { history with
    latest := max history.latest time
    enqueuedAt := if task = .enqueue then some time else history.enqueuedAt }

def noteAttempts (attempts : Nat) (history : RouteHistory) : RouteHistory :=
  { history with
    limitReached := history.limitReached || decide (config.maxRetryCount ≤ attempts) }

def noteStatus (status : RouteInboxStatus) (history : RouteHistory) : RouteHistory :=
  { history with completed := history.completed || status = .completed }

def noteRemoval (history : RouteHistory) : RouteHistory :=
  { history with removed := true }

def noteRegistration (registered : Bool) (history : RouteHistory) : RouteHistory :=
  { history with registrations := history.registrations + registered.toNat }

def noteDelivery (delivery : SessionDelivery) (history : RouteHistory) : RouteHistory :=
  { noteRegistration delivery.registered history with
    accepted := history.accepted || delivery.result.isOk }

def RouteState.perform (task : RouteTask) (state : RouteState) :
    (op : RouteOp) → op.Choice → Option (RouteState × op.Answer × List RouteWorker)
  | .now, time => some (state.record (noteClock task time), time, [])
  | .increaseMessagesDropped, _ => some (state, (), [])
  | .putPayload node packet, failure =>
    let (after, result) := storing failure state (state.setPayload node (some packet))
    some (after, result, [])
  | .getPayload node, failure => some (state, reading failure (state.payloads node), [])
  | .deletePayload node, failure =>
    let (after, result) := storing failure state (state.setPayload node none)
    some (after, result, [])
  | .getOutbox, failure => some (state, reading failure state.outbox, [])
  | .putOutbox item, failure =>
    let (after, result) := storing failure state
      ((state.setOutbox (some item)).record (noteAttempts config item.attempts))
    some (after, result, [])
  | .deleteOutbox, failure =>
    let (after, result) := storing failure state (state.setOutbox none)
    some (after, result, [])
  | .spawnOutboxDispatch item, _ =>
    some (state, (), [⟨.dispatch, dispatchOutboxItem config route item⟩])
  | .getNode, found => some (state, found, [])
  | .sendRequest request, _ =>
    some ({ state.setSent state.calls (some request) with calls := state.calls + 1 },
      state.calls, [])
  | .awaitResponse call, failure =>
    match failure with
    | some error => some (state, .error error, [])
    | none => (state.responses call).map fun result => (state, result, [])
  | .publishToLocalSubscribers _, delivery =>
    some (state.record (noteRegistration delivery.registered), delivery.result, [])
  | .getInbox, failure => some (state, reading failure state.inbox, [])
  | .putInbox item, failure =>
    let (after, result) := storing failure state
      (((state.setInbox (some item)).record (noteAttempts config item.attempts)).record
        (noteStatus item.status))
    some (after, result, [])
  | .deleteInbox, failure =>
    let (after, result) := storing failure state ((state.setInbox none).record noteRemoval)
    some (after, result, [])
  | .spawnInboxProcessing item, _ =>
    some (state, (), [⟨.process, processInboxItem config route item⟩])
  | .acceptRoutedPublish _, delivery =>
    some (state.record (noteDelivery delivery), delivery.result, [])

def RouteState.finish (task : RouteTask) (result : RouteResult) (state : RouteState) : RouteState :=
  match task with
  | .handler call => state.respond call result
  | .enqueue => state.record fun history =>
    { history with enqueued := history.enqueued || result.isOk }
  | _ => state

inductive RouteEvent where
  | scanOutbox
  | scanInbox
  | cleanup
  /-- A request reaches the destination. -/
  | arrive (call : Nat)
  /-- A node stops and starts again. -/
  | restart (node : RouteNode)
deriving DecidableEq, Repr

def RouteState.environment (state : RouteState) :
    RouteEvent → Option (RouteState × List RouteWorker)
  | .scanOutbox => some (state, [⟨.dispatch, processRouteOutbox config route⟩])
  | .scanInbox => some (state, [⟨.process, processRouteInbox config route⟩])
  | .cleanup => some (state, [⟨.cleanup, cleanupCompletedInboxItems config⟩])
  | .arrive call =>
    (state.sent call).map fun request =>
      (state.setSent call none, [⟨.handler call, routeFromOtherNode config route request⟩])
  | .restart _ => some (state, [])

def RouteEvent.survives (event : RouteEvent) (task : RouteTask) : Bool :=
  match event with
  | .restart node => task.node ≠ node
  | _ => true

def routing : WorkerBehaviour RouteOp.Answer RouteOp.Choice RouteState RouteResult RouteTask
    RouteEvent where
  perform := RouteState.perform config route
  finish := RouteState.finish
  environment := RouteState.environment config route
  survives := RouteEvent.survives

abbrev RoutePool := Pool RouteOp.Answer RouteState RouteResult RouteTask

def RoutePool.initial : RoutePool :=
  (Pool.new RouteState.new).startAll [⟨.enqueue, enqueueDurableRemoteRoute config route⟩]

end Behaviour

end YedMQ.Router
