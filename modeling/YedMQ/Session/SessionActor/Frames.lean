import YedMQ.Session.SessionActor.Handlers

/-! # What operations and handlers can do

An operation changes one part of the session. A handler changes the fields of the actor,
its mailbox and the traffic, but nothing that the actor shares with its futures, and only a
client that comes back changes what was agreed with it. The futures that a handler starts
are those of `Program`, and they act for the session as the handler found it.
-/

namespace YedMQ.SessionActor

open Semantics Raft.SessionState Session

/-! ## Acknowledgements -/

inductive AckKind where
  | puback
  | pubrec
  | pubrel
  | pubcomp
deriving DecidableEq, Repr

namespace AckKind

def packet : AckKind → Ack → Packet
  | puback => .puback
  | pubrec => .pubrec
  | pubrel => .pubrel
  | pubcomp => .pubcomp

def answered : AckKind → InflightState
  | puback => .waitPuback
  | pubrec => .waitPubrec
  | pubrel => .waitPubrel
  | pubcomp => .waitPubcomp

def task : AckKind → UInt16 → ClientContext → Fut Completion
  | puback => pubackTask
  | pubrec => pubrecTask
  | pubrel => pubrelTask
  | pubcomp => pubcompTask

def checks : AckKind → Bool
  | puback => true
  | pubrec => true
  | pubrel => false
  | pubcomp => false

/-- The acknowledgement is handled at all: without a connection, one that is to be answered
itself is not. -/
def isHandled (session : Session) : AckKind → Bool
  | puback => true
  | pubrec | pubrel => session.connected
  | pubcomp => true

end AckKind

theorem handlePacket_ack (kind : AckKind) (ack : Ack) (session : Session) :
    handlePacket (kind.packet ack) session = (session, if kind.isHandled session then
        [wait (kind.task ack.packetIdentifier session.clientContext)] else []) := by
  cases kind <;> rfl

variable {task : Nat} {session next : Session} {op : Op}

/-! ## Operations -/

theorem perform_access {access : Access} {orders : Access.Orders} {result : access.Result}
    (performed : perform task session (.access access) orders = some (next, result)) :
    session.mayAccess task = true ∧ ∃ state,
      access.run session.clock orders session.state = some (state, result) ∧
        next = { session with state := state, lock := session.lock.use task } := by
  simp only [perform] at performed
  split at performed
  · rename_i may
    rcases Option.map_eq_some_iff.mp performed with ⟨⟨state, found⟩, runs, built⟩
    cases built
    exact ⟨may, state, runs, rfl⟩
  · cases performed

theorem perform_acquire {choice : Unit} {answer : Unit}
    (performed : perform task session .acquire choice = some (next, answer)) :
    session.lock.opens task = true ∧ next = { session with lock := session.lock.take task } := by
  simp only [perform] at performed
  split at performed
  · rename_i opens
    cases performed
    exact ⟨opens, rfl⟩
  · cases performed

theorem park_eq_some (parked : park task session op = some next) :
    mustWait task session op = true ∧
      next = { session with lock := session.lock.enqueue task } := by
  rw [park] at parked
  split at parked
  · rename_i waits
    cases parked
    rw [Bool.and_eq_true] at waits
    exact ⟨waits.1, rfl⟩
  · cases parked

theorem perform_raft {request : SessionStateRequest} {choice : RaftChoice}
    {answer : Except RaftError SessionStateResponse}
    (performed : perform task session (.raft request) choice = some (next, answer)) :
    ∃ replicated, next = { session with replicated := replicated } ∧
      (choice.outcome = .lost ∧ replicated = session.replicated ∧ answer = .error .unavailable ∨
        ∃ response, applyRaft choice.now request session.replicated = some (replicated, response) ∧
          (choice.outcome = .unacknowledged ∧ answer = .error .unavailable ∨
            choice.outcome = .committed ∧ answer = raftAnswer response)) := by
  simp only [perform, performRaft] at performed
  cases outcome : choice.outcome with
  | lost =>
    simp only [outcome] at performed
    cases performed
    exact ⟨session.replicated, rfl, .inl ⟨rfl, rfl, rfl⟩⟩
  | unacknowledged =>
    simp only [outcome] at performed
    rcases Option.map_eq_some_iff.mp performed with ⟨⟨replicated, response⟩, applied, built⟩
    cases built
    exact ⟨replicated, rfl, .inr ⟨response, applied, .inl ⟨rfl, rfl⟩⟩⟩
  | committed =>
    simp only [outcome] at performed
    rcases Option.map_eq_some_iff.mp performed with ⟨⟨replicated, response⟩, applied, built⟩
    cases built
    exact ⟨replicated, rfl, .inr ⟨response, applied, .inr ⟨rfl, rfl⟩⟩⟩

variable {choice : op.Choice} {answer : op.Answer}

def Session.received (session : Session) : List Packet :=
  session.traffic.filterMap fun
    | .received packet => some packet
    | _ => none

theorem received_write (packet : Packet) (session : Session) :
    (session.write packet).received = session.received := by
  simp [received, write]

/-- What an operation leaves as it is. -/
structure Frame (task : Nat) (op : Op) (session next : Session) : Prop where
  state : (∀ access, op ≠ .access access) → next.state = session.state
  lock : ∀ id, next.lock.Engages id → id = task ∨ session.lock.Engages id
  uncontended : session.lock.Uncontended task → next.lock.Uncontended task
  replicated : (∀ request, op ≠ .raft request) → next.replicated = session.replicated
  mailbox : (∀ message, op ≠ .notify message) → next.mailbox = session.mailbox
  routed : (∀ publish, op ≠ .route publish) → next.routed = session.routed
  received : next.received = session.received
  owner : next.clientContext = session.clientContext
  connected : next.connected = session.connected
  running : next.running = session.running

theorem perform_frame (performed : perform task session op choice = some (next, answer)) :
    Frame task op session next := by
  have kept : Frame task op session session :=
    ⟨fun _ => rfl, fun _ => .inr, id, fun _ => rfl, fun _ => rfl, fun _ => rfl, rfl, rfl, rfl, rfl⟩
  cases op with
  | access =>
    rcases perform_access performed with ⟨_, _, _, rfl⟩
    refine { kept with state := fun other => absurd rfl (other _), lock := ?_, uncontended := ?_ }
    · intro id engages
      exact .inr engages.of_use
    · intro uncontended
      exact uncontended.use.symm ▸ uncontended
  | acquire =>
    rcases perform_acquire performed with ⟨_, rfl⟩
    refine { kept with lock := fun _ engages => engages.of_take, uncontended := ?_ }
    intro uncontended
    right
    change session.lock.take task = _
    rcases uncontended with free | keeps
    · rw [free]
    · rw [keeps]
      rfl
  | raft =>
    rcases perform_raft performed with ⟨_, rfl, _⟩
    exact { kept with replicated := fun other => absurd rfl (other _) }
  | send packet =>
    cases performed
    cases choice with
    | written => exact { kept with received := received_write packet session }
    | mailboxError | connectionError | dropped => exact { kept with }
  | doSend packet =>
    cases performed
    exact { kept with received := received_write packet session }
  | notify =>
    cases performed
    exact { kept with mailbox := fun other => absurd rfl (other _) }
  | route =>
    cases performed
    exact { kept with routed := fun other => absurd rfl (other _) }
  | putPayload | deletePayload =>
    cases performed
    cases choice <;> exact { kept with }
  | now | newKey | getPayload | call =>
    cases performed
    exact { kept with }

theorem surroundings_fields {event : SurroundingEvent}
    (changed : surroundings session event = some next) :
    ∃ mailbox clock replicated payloads, next = { session with
      mailbox := mailbox, clock := clock, replicated := replicated, payloads := payloads } := by
  cases event with
  | raftEntry =>
    rcases Option.map_eq_some_iff.mp changed with ⟨_, _, set⟩
    exact ⟨_, _, _, _, set.symm⟩
  | post | clock | storePayload =>
    cases changed
    exact ⟨_, _, _, _, rfl⟩

/-! ## Handlers -/

structure Session.SharesWith (session other : Session) : Prop where
  tenantId : other.tenantId = session.tenantId
  clientId : other.clientId = session.clientId
  state : other.state = session.state
  lock : other.lock = session.lock
  clock : other.clock = session.clock
  replicated : other.replicated = session.replicated
  payloads : other.payloads = session.payloads
  routed : other.routed = session.routed

/-- Two sessions also have the same agreement with the client, the same packets from it and
the same messages to handle. -/
structure Session.Continues (session other : Session) : Prop extends session.SharesWith other where
  cleanSession : other.cleanSession = session.cleanSession
  protocolVersion : other.protocolVersion = session.protocolVersion
  receiveMaximum : other.receiveMaximum = session.receiveMaximum
  connected : other.connected = session.connected
  received : other.received = session.received
  mailbox : other.mailbox = session.mailbox

namespace Session

theorem SharesWith.refl (session : Session) : session.SharesWith session :=
  ⟨rfl, rfl, rfl, rfl, rfl, rfl, rfl, rfl⟩

variable {other : Session}

theorem SharesWith.trans {session middle : Session} (first : session.SharesWith middle)
    (second : middle.SharesWith other) : session.SharesWith other := by
  cases first
  cases second
  constructor <;> grind

theorem Continues.refl (session : Session) : session.Continues session :=
  ⟨.refl session, rfl, rfl, rfl, rfl, rfl, rfl⟩

theorem Continues.trans {session middle : Session} (first : session.Continues middle)
    (second : middle.Continues other) : session.Continues other := by
  have shares := first.toSharesWith.trans second.toSharesWith
  cases first
  cases second
  constructor <;> grind

theorem Continues.clientContext {session : Session} (continues : session.Continues other) :
    other.clientContext = session.clientContext := by
  rw [Session.clientContext, Session.clientContext, continues.tenantId, continues.clientId,
    continues.cleanSession]

end Session

theorem continues_reserveIf (reserved : Bool) (session : Session) :
    session.Continues (session.reserveIf reserved) := by
  cases reserved <;> exact { Continues.refl session with }

theorem continues_releaseIf (reserved : Bool) (session : Session) :
    session.Continues (session.releaseIf reserved) := by
  cases reserved <;> exact { Continues.refl session with }

theorem continues_setDeferred (deferred : List DeferredOutboundPublish) (session : Session) :
    session.Continues (session.setDeferred deferred) :=
  { Continues.refl session with }

theorem continues_deferPublish (deferred : DeferredOutboundPublish) (session : Session) :
    session.Continues (session.deferPublish deferred) :=
  { Continues.refl session with }

theorem continues_write (packet : Packet) (session : Session) :
    session.Continues (session.write packet) :=
  { Continues.refl session with received := received_write packet session }

/-! ## The futures that are started -/

def OutboundPublishDeliveryContext.client (context : OutboundPublishDeliveryContext) :
    ClientContext where
  tenantId := context.tenantId
  clientId := context.clientId
  cleanSession := context.cleanSession

/-- The futures that act for a session, without those of acknowledgements. -/
inductive PlainProgram (owner : ClientContext) : SessionStart → Prop where
  | recovery (session : Session) (own : session.clientContext = owner) :
      PlainProgram owner (wait (recoverSession session))
  | pop (session : Session) (own : session.clientContext = owner) :
      PlainProgram owner (wait (popPendingOnce session))
  | delivery (mode : Mode) (publish : Publish) (context : OutboundPublishDeliveryContext)
      (reserved : Bool) (own : context.client = owner) :
      PlainProgram owner ⟨mode, deliveryTask publish context reserved⟩
  | registered (deferred : DeferredOutboundPublish)
      (context : OutboundPublishDeliveryContext) (reserved : Bool)
      (own : context.client = owner) :
      PlainProgram owner (wait (registeredTask deferred context reserved))
  | publish (publish : Publish) : PlainProgram owner (spawn (publishTask publish owner))
  | subscribe (subscribe : Subscribe) :
      PlainProgram owner (wait (quietly (handleSubscribe subscribe owner)))
  | unsubscribe (unsubscribe : Unsubscribe) :
      PlainProgram owner (wait (quietly (handleUnsubscribe unsubscribe owner)))
  | retry (context : OutboundPublishDeliveryContext) (deferredPacketIds : List UInt16)
      (own : context.client = owner) :
      PlainProgram owner (wait (retryTask context deferredPacketIds))
  | retryAll (context : OutboundPublishDeliveryContext) (own : context.client = owner) :
      PlainProgram owner (wait (retryAllTask context))
  | resume (protocolVersion : ProtocolVersion) :
      PlainProgram owner (wait (resumeSession protocolVersion))
  | cleanupLocal : PlainProgram owner (detach (quietly cleanupLocalFinishedItems))
  | cleanupRaft : PlainProgram owner (detach (quietly (cleanFinishedInflightItems owner)))
  | lifecycle (message : LifecycleMessage) :
      PlainProgram owner (wait (quietly (call (.lifecycle message))))
  | disconnectedHook : PlainProgram owner (wait (quietly (call .clientDisconnectedHook)))
  | will (willMessage : Option WillMessage) (completion : Completion) :
      PlainProgram owner (wait (sendWill willMessage completion))
  | protocolError (reasonCode : ReasonCode) :
      PlainProgram owner (wait (writeProtocolError reasonCode))
  | disconnection : PlainProgram owner (wait disconnectConnection)
  | connectionState (disconnectedAt : Option Nat) (session : Session)
      (own : session.clientContext = owner) :
      PlainProgram owner (spawn (updateConnectionState disconnectedAt session))
  | deletion (session : Session) (own : session.clientContext = owner) :
      PlainProgram owner (spawn (deleteSessionState session))
  | stopNotice : PlainProgram owner (wait notifySessionManagerStopped)

/-- The futures that act for a session. -/
inductive Program (owner : ClientContext) : SessionStart → Prop where
  | plain {start : SessionStart} (plain : PlainProgram owner start) : Program owner start
  | ack (kind : AckKind) (packetId : UInt16) : Program owner (wait (kind.task packetId owner))

def AnyProgram (start : SessionStart) : Prop :=
  ∃ owner, Program owner start

inductive DeliveryProgram (owner : ClientContext) : SessionStart → Prop where
  | delivery (mode : Mode) (publish : Publish) (context : OutboundPublishDeliveryContext)
      (reserved : Bool) (own : context.client = owner) :
      DeliveryProgram owner ⟨mode, deliveryTask publish context reserved⟩
  | registered (deferred : DeferredOutboundPublish)
      (context : OutboundPublishDeliveryContext) (reserved : Bool)
      (own : context.client = owner) :
      DeliveryProgram owner (wait (registeredTask deferred context reserved))

variable {start : SessionStart}

theorem DeliveryProgram.plain {owner : ClientContext} (delivers : DeliveryProgram owner start) :
    PlainProgram owner start := by
  cases delivers with
  | delivery mode publish context reserved own =>
    exact .delivery mode publish context reserved own
  | registered deferred context reserved own => exact .registered deferred context reserved own

def AllPlain (owner : ClientContext) (starts : List SessionStart) : Prop :=
  ∀ start ∈ starts, PlainProgram owner start

/-- What a handler does: it changes nothing but fields of the actor, and starts plain
futures. -/
structure Keeps (session : Session) (handled : Handled) : Prop where
  continues : session.Continues handled.1
  plain : AllPlain session.clientContext handled.2

/-- The handler starts deliveries only. -/
structure Delivers (session : Session) (handled : Handled) : Prop where
  continues : session.Continues handled.1
  programs : ∀ start ∈ handled.2, DeliveryProgram session.clientContext start

theorem Delivers.keeps {session : Session} {handled : Handled}
    (delivers : Delivers session handled) : Keeps session handled :=
  ⟨delivers.continues, fun start member => (delivers.programs start member).plain⟩

theorem delivers_none {session next : Session} (continues : session.Continues next) :
    Delivers session (next, []) :=
  ⟨continues, fun _ member => nomatch member⟩

namespace Keeps

variable {session middle next : Session} {handled : Handled}

theorem none (continues : session.Continues next) : Keeps session (next, []) :=
  (delivers_none continues).keeps

theorem starts (program : PlainProgram session.clientContext start) :
    Keeps session (session, [start]) :=
  ⟨.refl session, List.forall_mem_singleton.mpr program⟩

theorem after (first : session.Continues middle) (second : Keeps middle handled) :
    Keeps session handled :=
  ⟨first.trans second.continues, first.clientContext ▸ second.plain⟩

end Keeps

theorem delivers_start (publish : Publish) (session : Session) :
    Delivers session (startOutboundPublishDelivery publish session) := by
  rw [startOutboundPublishDelivery]
  split
  · exact delivers_none (continues_deferPublish _ session)
  · refine ⟨continues_reserveIf _ session, ?_⟩
    intro start member
    rw [List.mem_singleton.mp member]
    split
    · exact .delivery .spawn _ _ _ rfl
    · exact .delivery .wait _ _ _ rfl

theorem delivers_drainLoop (fuel : Nat) (session : Session) :
    Delivers session (drainLoop fuel session) := by
  induction fuel generalizing session with
  | zero => exact delivers_none (.refl session)
  | succ fuel induction =>
    rw [drainLoop]
    split
    · exact delivers_none (.refl session)
    · rename_i next rest _
      have taken := continues_setDeferred rest session
      split
      · exact delivers_none (.refl session)
      · split
        · exact ⟨taken.trans (continues_reserveIf _ _),
            List.forall_mem_singleton.mpr (.registered _ _ _ rfl)⟩
        · have first := delivers_start next.publish (session.setDeferred rest)
          have continues := taken.trans first.continues
          have later := induction (startOutboundPublishDelivery next.publish
            (session.setDeferred rest)).1
          refine ⟨continues.trans later.continues, ?_⟩
          intro start member
          rcases List.mem_append.mp member with now | after'
          · exact first.programs start now
          · rw [← continues.clientContext]
            exact later.programs start after'

/-- Draining starts nothing but deliveries. -/
theorem delivers_drain (session : Session) :
    Delivers session (drainDeferredOutboundPublishes session) := by
  rw [drainDeferredOutboundPublishes]
  split
  · exact delivers_none (.refl session)
  · exact delivers_drainLoop _ session

theorem keeps_forceStop (session : Session) : Keeps session (forceStop session) :=
  .starts .stopNotice

theorem keeps_setState (state : ActivityState) (session : Session) :
    Keeps session (setState state session) := by
  refine ⟨{ Continues.refl session with }, ?_⟩
  refine List.forall_mem_append.mpr ⟨?_, ?_⟩
  · split
    · exact List.forall_mem_nil _
    · exact List.forall_mem_singleton.mpr (.connectionState _ _ rfl)
  · exact List.forall_mem_singleton.mpr (.lifecycle _)

theorem keeps_finishConnectionDisconnect (session : Session) :
    Keeps session (finishConnectionDisconnect session) := by
  rw [finishConnectionDisconnect]
  split
  · exact .starts (.deletion _ rfl)
  · split
    · exact keeps_forceStop session
    · exact keeps_setState .inactive session

theorem keeps_disconnectNormally (session : Session) :
    Keeps session (disconnectNormally session) := by
  have finished := keeps_finishConnectionDisconnect session
  exact ⟨finished.continues, List.forall_mem_cons.mpr ⟨.disconnectedHook, finished.plain⟩⟩

theorem keeps_handleDisconnect (disconnect : Disconnect) (session : Session) :
    Keeps session (handleDisconnect disconnect session) := by
  -- The changes made before the connection is finished are to fields of the actor.
  have fields : ∀ willMessage sessionExpiryInterval, session.Continues
      { session with
        willMessage := willMessage
        sessionExpiryInterval := sessionExpiryInterval } := by
    intro willMessage sessionExpiryInterval
    exact { Continues.refl session with }
  have cleared := fields none session.sessionExpiryInterval
  rw [handleDisconnect]
  split
  · exact (keeps_disconnectNormally _).after cleared
  · split
    · rename_i updated _
      exact (keeps_disconnectNormally _).after (fields none updated)
    · split
      · exact (Keeps.starts (.protocolError _)).after cleared
      · exact (keeps_finishConnectionDisconnect _).after cleared

theorem keeps_ifConnected (session : Session) (program : PlainProgram session.clientContext start) :
    Keeps session (ifConnected session start) := by
  rw [ifConnected]
  split
  · exact .starts program
  · exact .none (.refl session)

theorem keeps_handlePacket {packet : Packet}
    (other : ∀ kind ack, packet ≠ AckKind.packet kind ack) (session : Session) :
    Keeps session (handlePacket packet session) := by
  cases packet with
  | publish publish => exact .starts (.publish _)
  | puback ack => exact absurd rfl (other .puback ack)
  | pubrec ack => exact absurd rfl (other .pubrec ack)
  | pubrel ack => exact absurd rfl (other .pubrel ack)
  | pubcomp ack => exact absurd rfl (other .pubcomp ack)
  | subscribe subscribe => exact keeps_ifConnected session (.subscribe _)
  | unsubscribe unsubscribe => exact keeps_ifConnected session (.unsubscribe _)
  | disconnect disconnect => exact keeps_handleDisconnect disconnect session
  | pingreq =>
    rw [handlePacket]
    split
    · exact .none (continues_write .pingresp session)
    · exact .none (.refl session)
  | _ => exact .none (.refl session)

def SessionActorMessage.isReconnect : SessionActorMessage → Bool
  | reconnect _ _ _ _ _ => true
  | _ => false

def Session.noting (message : SessionActorMessage) (session : Session) : Session :=
  match message with
  | .inboundPacket packet =>
    { session with traffic := session.traffic ++ [.received packet] }
  | _ => session

variable {message : SessionActorMessage}

theorem clientContext_noting (message : SessionActorMessage) (session : Session) :
    (session.noting message).clientContext = session.clientContext := by
  cases message <;> rfl

theorem keeps_handleMessage (stays : message.isReconnect = false)
    (other : ∀ kind ack, message ≠ .inboundPacket (AckKind.packet kind ack)) (session : Session) :
    Keeps (session.noting message) (handleMessage message session) := by
  cases message with
  | inboundPacket =>
    apply keeps_handlePacket
    intro kind ack same
    exact other kind ack (congrArg _ same)
  | outboundMessage packet | acceptRoutedPublish packet =>
    cases packet with
    | publish publish => exact (delivers_start publish session).keeps
    | _ => exact .none (.refl session)
  | keepAliveExpired | unexpectClientDisconnected =>
    exact ⟨{ Continues.refl session with }, List.forall_mem_singleton.mpr (.will _ _)⟩
  | inflightRetry => exact .starts (.retry _ _ rfl)
  | allInflightRetryImmediate =>
    exact ⟨{ Continues.refl session with }, List.forall_mem_singleton.mpr (.retryAll _ rfl)⟩
  | forceDisconnect =>
    rw [handleMessage]
    split
    · exact .starts .disconnection
    · exact .none (.refl session)
  | reconnect => cases stays
  | clientDisconnected => exact keeps_finishConnectionDisconnect session
  | forceStop => exact keeps_forceStop session

theorem allPlain_handleMessage
    (other : ∀ kind ack, message ≠ .inboundPacket (AckKind.packet kind ack)) (session : Session) :
    AllPlain session.clientContext (handleMessage message session).2 := by
  cases returns : message.isReconnect with
  | false =>
    rw [← clientContext_noting message session]
    exact (keeps_handleMessage returns other session).plain
  | true =>
    cases message with
    | reconnect _ protocolVersion sessionExpiryInterval receiveMaximum _ =>
      -- The update of the connection state is made for the session as it was before.
      refine List.forall_mem_append.mpr ⟨?_, ?_⟩
      · exact (keeps_setState .active
          { session with
            protocolVersion := protocolVersion
            sessionExpiryInterval := sessionExpiryInterval
            receiveMaximum := receiveMaximum }).plain
      · exact List.forall_mem_singleton.mpr (.resume _)
    | _ => cases returns

/-- What a message starts: the future of an acknowledgement, or plain futures. -/
theorem handleMessage_cases (message : SessionActorMessage) (session : Session) :
    (∃ kind ack, message = .inboundPacket (AckKind.packet kind ack) ∧
        handleMessage message session = (session.noting message,
          if kind.isHandled session then
            [wait (kind.task ack.packetIdentifier session.clientContext)] else [])) ∨
      (∀ kind ack, message ≠ .inboundPacket (AckKind.packet kind ack)) ∧
        AllPlain session.clientContext (handleMessage message session).2 := by
  by_cases acknowledges : ∃ kind ack, message = .inboundPacket (AckKind.packet kind ack)
  · rcases acknowledges with ⟨kind, ack, same⟩
    subst same
    refine .inl ⟨kind, ack, rfl, ?_⟩
    cases kind <;> rfl
  · have other : ∀ kind ack, message ≠ .inboundPacket (AckKind.packet kind ack) :=
      fun kind ack same => acknowledges ⟨kind, ack, same⟩
    exact .inr ⟨other, allPlain_handleMessage other session⟩

theorem continues_handleMessage (stays : message.isReconnect = false) (session : Session) :
    (session.noting message).Continues (handleMessage message session).1 := by
  rcases handleMessage_cases message session with ⟨_, _, _, result⟩ | ⟨other, _⟩
  · rw [result]
    exact .refl _
  · exact (keeps_handleMessage stays other session).continues

theorem shares_noting (message : SessionActorMessage) (session : Session) :
    session.SharesWith (session.noting message) := by
  cases message <;> exact ⟨rfl, rfl, rfl, rfl, rfl, rfl, rfl, rfl⟩

/-- The packets that have come from the client after a message. -/
theorem received_handleMessage (message : SessionActorMessage) (session : Session) :
    (handleMessage message session).1.received = (session.noting message).received := by
  cases returns : message.isReconnect with
  | false => exact (continues_handleMessage returns session).received
  | true =>
    cases message with
    | reconnect => simp [handleMessage, setState, received, noting]
    | _ => cases returns

theorem shares_handleMessage (message : SessionActorMessage) (session : Session) :
    session.SharesWith (handleMessage message session).1 := by
  cases returns : message.isReconnect with
  | false =>
    exact (shares_noting message session).trans
      (continues_handleMessage returns session).toSharesWith
  | true =>
    cases message with
    | reconnect => exact ⟨rfl, rfl, rfl, rfl, rfl, rfl, rfl, rfl⟩
    | _ => cases returns

variable {starts : List SessionStart}

theorem receive_eq_some (received : receive session = some (next, starts)) :
    ∃ message rest, session.mailbox = message :: rest ∧
      handleMessage message { session with mailbox := rest } = (next, starts) := by
  rw [receive] at received
  split at received
  · cases received
  · rename_i message rest mailbox
    exact ⟨message, rest, mailbox, Option.some.inj received⟩

theorem shares_receive (received : receive session = some (next, starts)) :
    session.SharesWith next := by
  rcases receive_eq_some received with ⟨message, rest, _, handled⟩
  have taken : session.SharesWith { session with mailbox := rest } :=
    ⟨rfl, rfl, rfl, rfl, rfl, rfl, rfl, rfl⟩
  have shares := taken.trans (shares_handleMessage message _)
  rw [handled] at shares
  exact shares

def Session.posting (messages : List SessionActorMessage) (session : Session) : Session :=
  { session with mailbox := session.mailbox ++ messages }

theorem Session.posting_nil (session : Session) : session.posting [] = session := by
  rw [posting, List.append_nil]

theorem Session.shares_posting (messages : List SessionActorMessage) (session : Session) :
    session.SharesWith (session.posting messages) :=
  ⟨rfl, rfl, rfl, rfl, rfl, rfl, rfl, rfl⟩

/-- A PUBLISH without an identifier ends the connection. -/
def Completion.posts : Completion → List SessionActorMessage
  | published (.error .packetIdNotExist) => [.forceDisconnect]
  | _ => []

theorem programs_receive (received : receive session = some (next, starts)) :
    ∀ start ∈ starts, Program session.clientContext start := by
  rcases receive_eq_some received with ⟨message, rest, _, handled⟩
  rcases handleMessage_cases message { session with mailbox := rest } with
    ⟨kind, ack, _, result⟩ | ⟨_, plain⟩
  · rw [result] at handled
    cases handled
    intro start member
    split at member
    · rw [List.mem_singleton.mp member]
      exact .ack kind _
    · cases member
  · rw [handled] at plain
    intro start member
    exact .plain (plain start member)

theorem keeps_releaseAndDrain (session : Session) :
    Keeps session (releaseReceiveMaximumSlotAndDrain session) :=
  (delivers_drain _).keeps.after (continues_releaseIf true session)

theorem continues_takeRetryPackets (packets : List Packet) (session : Session) :
    session.Continues (packets.foldl takeRetryPacket session) := by
  induction packets generalizing session with
  | nil => exact .refl session
  | cons packet rest induction =>
    have first : session.Continues (takeRetryPacket session packet) := by
      rw [takeRetryPacket.eq_def]
      split
      · exact continues_deferPublish _ session
      · split
        · exact continues_write _ session
        · exact .refl session
    exact first.trans (induction _)

theorem keeps_completeResult (completion : Completion) (session : Session) :
    Keeps (session.posting completion.posts) (completeResult completion session) := by
  by_cases missing : completion = .published (.error .packetIdNotExist)
  · subst missing
    exact .none (.refl _)
  have quiet : completion.posts = [] := by
    rw [Completion.posts.eq_def]
    split
    · exact absurd rfl missing
    · rfl
  rw [quiet, session.posting_nil]
  cases completion with
  | nothing => exact .none (.refl session)
  | stopNotified =>
    exact .none { Continues.refl session with }
  | recovered => exact .starts (.pop session rfl)
  | popped =>
    rw [completeResult]
    split
    · exact .starts (.pop session rfl)
    · exact .none (.refl session)
  | delivered =>
    rw [completeResult, completeDelivery.eq_def]
    split
    · exact .none (.refl session)
    · exact .none (continues_deferPublish _ session)
    all_goals
      split
      · exact keeps_releaseAndDrain session
      · exact .none (.refl session)
  | deliveredRegistered reserved =>
    rw [completeResult, completeRegistered.eq_def]
    split
    · exact (delivers_drain session).keeps
    · exact (delivers_drain _).keeps.after (continues_releaseIf reserved session)
    · exact .none ((continues_releaseIf reserved session).trans (continues_setDeferred _ _))
  | published =>
    rw [completeResult, completePublish.eq_def]
    split
    · split
      · refine ⟨continues_write _ session, ?_⟩
        rw [cleanupAfterPuback]
        split
        · exact List.forall_mem_singleton.mpr .cleanupLocal
        · exact List.forall_mem_singleton.mpr .cleanupRaft
      · exact .none (.refl session)
    · split
      · exact .none (continues_write _ session)
      · exact .none (.refl session)
    · exact .none (.refl session)
    · exact absurd rfl missing
    · exact .none (.refl session)
  | acknowledged cleanup release =>
    have released : Keeps session (if release then releaseReceiveMaximumSlotAndDrain session
        else (session, [])) := by
      split
      · exact keeps_releaseAndDrain session
      · exact .none (.refl session)
    refine ⟨released.continues, List.forall_mem_append.mpr ⟨?_, released.plain⟩⟩
    split
    · exact List.forall_mem_singleton.mpr .cleanupLocal
    · exact List.forall_mem_nil _
  | retried => exact (delivers_drain _).keeps.after (continues_setDeferred _ session)
  | retriedAll retryPackets =>
    exact (delivers_drain _).keeps.after (continues_takeRetryPackets retryPackets session)
  | keepAliveWillSent =>
    rw [completeResult]
    split
    · exact keeps_finishConnectionDisconnect session
    · exact .none (.refl session)
  | unexpectedWillSent | protocolErrorWritten =>
    exact keeps_finishConnectionDisconnect session
  | forceDisconnected =>
    rw [completeResult]
    split
    · split
      · exact keeps_forceStop session
      · exact keeps_setState .inactive session
    · exact .none (.refl session)
  | stateDeleted => exact keeps_forceStop session

/-- The result of a future is handled in a session whose guard the future has given
back. -/
theorem shares_complete (task : Nat) (completion : Completion) (session : Session) :
    (session.release task).SharesWith (complete task completion session).1 :=
  (shares_posting _ _).trans
    (keeps_completeResult completion (session.release task)).continues.toSharesWith

theorem allPlain_complete (task : Nat) (completion : Completion) (session : Session) :
    AllPlain session.clientContext (complete task completion session).2 :=
  (keeps_completeResult completion (session.release task)).plain

theorem programs_initial (session : Session) : (initial session).Programs AnyProgram := by
  apply System.Programs.startAll (System.programs_new _)
  intro start member
  refine ⟨session.clientContext, .plain ?_⟩
  exact List.forall_mem_singleton.mpr (.recovery session rfl) start member

/-- Every future of a run is one of the actor's. -/
theorem programs_step {system final : SessionSystem} {input : SessionInput}
    (programs : system.Programs AnyProgram) (stepped : step system input = some final) :
    final.Programs AnyProgram := by
  apply programs.step _ _ stepped
  · intro shared starts received start member
    exact ⟨_, programs_receive received start member⟩
  · intro id value start member
    exact ⟨_, .plain (allPlain_complete id value system.shared start member)⟩

end YedMQ.SessionActor
