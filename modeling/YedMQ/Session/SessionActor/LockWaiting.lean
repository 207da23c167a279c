import YedMQ.Session.SessionActor.Footprints

/-! # Waiting for the session state

A future that the actor waits for may itself wait for the lock of the session state. If a
spawned future has the lock then, nothing can go on: the spawned future is not polled
before the actor has stopped waiting. It may keep the guard, or the lock may have been
handed to it while it stood in the queue. This happens when a message or a result makes the
actor wait for the session state while a spawned future has the lock or waits for it.
-/

namespace YedMQ.SessionActor

open Semantics

def Op.usesState : Op → Bool
  | .access _ => true
  | .acquire => true
  | _ => false

def LeavesState {α : Type} (future : Fut α) : Prop :=
  future.Only fun op => op.usesState = false

def WaitsForState (future : Fut Completion) : Prop :=
  match future with
  | .await op _ => op.usesState = true
  | .done _ => False

instance (future : Fut Completion) : Decidable (WaitsForState future) :=
  match future with
  | .await op _ => inferInstanceAs (Decidable (op.usesState = true))
  | .done _ => inferInstanceAs (Decidable False)

def SpawnedHolds (system : SessionSystem) : Prop :=
  ∃ id ∈ system.ids .spawn, system.shared.lock.holder = some id

instance (system : SessionSystem) : Decidable (SpawnedHolds system) :=
  inferInstanceAs (Decidable (∃ id ∈ system.ids .spawn, _))

/-- A spawned future other than the given ones has the lock or waits for it. -/
def SpawnedEngages (apart : List Nat) (system : SessionSystem) : Prop :=
  ∃ id ∈ system.ids .spawn, id ∉ apart ∧ system.shared.lock.Engages id

instance (apart : List Nat) (system : SessionSystem) : Decidable (SpawnedEngages apart system) :=
  inferInstanceAs (Decidable (∃ id ∈ system.ids .spawn, _))

/-- The actor waits for a future that waits for the lock, and a spawned future has it. -/
def Deadlocked (system : SessionSystem) : Prop :=
  SpawnedHolds system ∧ ∃ task ∈ (system.tasks .wait).head?, WaitsForState task.current

instance (system : SessionSystem) : Decidable (Deadlocked system) :=
  inferInstanceAs (Decidable (_ ∧ ∃ task ∈ (system.tasks .wait).head?, _))

/-! ## Handlers that make the actor wait for the session state -/

variable (session : Session)

def packetAwaitsState : Packet → Bool
  | .subscribe _ | .unsubscribe _ => session.connected
  | .puback _ => true
  | .pubrec _ | .pubrel _ => session.connected
  | .pubcomp _ => true
  | _ => false

def deliveryAwaitsState : Packet → Bool
  | .publish publish => !session.cleanSession && publish.qos != 0
  | _ => false

def messageAwaitsState : SessionActorMessage → Bool
  | .inboundPacket packet => packetAwaitsState session packet
  | .outboundMessage packet | .acceptRoutedPublish packet => deliveryAwaitsState session packet
  | .inflightRetry => true
  | .allInflightRetryImmediate => true
  | .reconnect _ _ _ _ _ => true
  | _ => false

def drainAwaitsState : Bool :=
  session.deferredOutboundPublishes.any fun deferred =>
    deferred.registered || deliveryAwaitsState session (.publish deferred.publish)

def completionAwaitsState : Completion → Bool
  | .delivered _ (.ok .sent) => false
  | .delivered _ (.ok (.deferred _)) => false
  | .delivered reserved _ => reserved && drainAwaitsState session
  | .deliveredRegistered _ _ _ => drainAwaitsState session
  | .acknowledged _ release => release && drainAwaitsState session
  | .retried _ => drainAwaitsState session
  | .retriedAll retryPackets => drainAwaitsState (retryPackets.foldl takeRetryPacket session)
  | _ => false

/-- The condition on one step: while a spawned future has the lock or waits for it, the
actor does not begin to wait for the session state. -/
def KeepsMoving (system : SessionSystem) : SessionInput → Prop
  | .receive => SpawnedEngages [] system → ∀ message ∈ system.shared.mailbox.head?,
      messageAwaitsState system.shared message = false
  | .finish place => ∀ task ∈ system.taskAt behaviour place, SpawnedEngages [task.id] system →
      ∀ completion ∈ task.current.result?,
        completionAwaitsState (system.shared.release task.id) completion = false
  | _ => True

instance (system : SessionSystem) (input : SessionInput) :
    Decidable (KeepsMoving system input) := by
  unfold KeepsMoving
  split <;> infer_instance

def Unhindered (starts : List SessionStart) : Prop :=
  ∀ start ∈ starts, start.mode = .wait → LeavesState start.future

theorem unhindered_nil : Unhindered [] :=
  List.forall_mem_nil _

theorem unhindered_wait {future : Fut Completion} (leaves : LeavesState future) :
    Unhindered [wait future] :=
  List.forall_mem_singleton.mpr fun _ => leaves

/-- Only the futures of one mode are waited for. -/
theorem unhindered_of_ne {start : SessionStart} (other : start.mode ≠ .wait) : Unhindered [start] :=
  List.forall_mem_singleton.mpr fun waits => absurd waits other

/-! ## Futures that do without the session state -/

theorem leavesState_call (what : ExternalCall) : LeavesState (quietly (call what)) :=
  ⟨rfl, fun _ => trivial⟩

theorem leavesState_sendWill (willMessage : Option WillMessage) (completion : Completion) :
    LeavesState (sendWill willMessage completion) := by
  cases willMessage with
  | none => trivial
  | some => exact ⟨rfl, fun _ => ⟨rfl, fun _ => trivial⟩⟩

theorem leavesState_popPendingOnce : LeavesState (popPendingOnce session) :=
  only_popPendingOnce session rfl fun key => only_postStored _ key rfl rfl fun _ => rfl

theorem leavesState_sendPublish (publish : Publish) : LeavesState (sendPublish publish) := by
  refine Future.Only.perform rfl ?_
  intro result
  split <;> trivial

variable {publish : Publish}

theorem prepareForDelivery_qos {prepared : Publish} {version : ProtocolVersion} {now : Nat}
    (ready : publish.prepareForDelivery version now = some prepared) :
    prepared.qos = publish.qos := by
  rw [Publish.prepareForDelivery] at ready
  split at ready
  · cases ready
    rfl
  · split at ready
    · cases ready
    · split at ready <;>
        · cases ready
          rfl

/-- A message of QoS 0 is written or dropped. -/
theorem leavesState_deliverOutboundPublish (unregistered : publish.qos = 0)
    (context : OutboundPublishDeliveryContext) :
    LeavesState (deliverOutboundPublish publish context) := by
  refine Future.Only.perform rfl ?_
  intro now
  split
  · trivial
  · rename_i prepared ready
    have same : prepared.qos = 0 := (prepareForDelivery_qos ready).trans unregistered
    split
    · split
      · trivial
      · exact (leavesState_sendPublish prepared).finish
    · rw [if_pos same]
      trivial

/-! ## Handlers -/

variable {session : Session}

theorem unhindered_startDelivery (free : deliveryAwaitsState session (.publish publish) = false) :
    Unhindered (startOutboundPublishDelivery publish session).2 := by
  rw [startOutboundPublishDelivery]
  split
  · exact unhindered_nil
  · split
    · exact unhindered_of_ne Mode.noConfusion
    · rename_i persistent
      simp only [deliveryAwaitsState, persistent, Bool.not_false, Bool.true_and,
        bne_eq_false_iff_eq] at free
      exact unhindered_wait (leavesState_deliverOutboundPublish free _).finish

theorem drainAwaitsState_reserveIf (reserved : Bool) (session : Session) :
    drainAwaitsState (session.reserveIf reserved) = drainAwaitsState session := by
  cases reserved <;> rfl

/-- The messages that are left after the first one has been taken. -/
theorem drainAwaitsState_startDelivery
    (first : deliveryAwaitsState session (.publish publish) = false)
    (others : drainAwaitsState session = false) :
    drainAwaitsState (startOutboundPublishDelivery publish session).1 = false := by
  rw [startOutboundPublishDelivery]
  split
  · simp only [drainAwaitsState, Session.deferPublish, List.any_append, List.any_cons,
      List.any_nil, Bool.or_false, Bool.false_or, Bool.or_eq_false_iff]
    exact ⟨others, first⟩
  · exact (drainAwaitsState_reserveIf _ session).trans others

theorem unhindered_drainLoop (fuel : Nat) (free : drainAwaitsState session = false) :
    Unhindered (drainLoop fuel session).2 := by
  induction fuel generalizing session with
  | zero => exact unhindered_nil
  | succ fuel induction =>
    rw [drainLoop]
    split
    · exact unhindered_nil
    · rename_i next rest listed
      simp only [drainAwaitsState, listed, List.any_cons, Bool.or_eq_false_iff] at free
      rcases free with ⟨⟨unregistered, first⟩, others⟩
      split
      · exact unhindered_nil
      · rw [if_neg (by simp [unregistered])]
        refine List.forall_mem_append.mpr ⟨?_, ?_⟩
        · exact unhindered_startDelivery first
        · exact induction (drainAwaitsState_startDelivery first others)

theorem unhindered_drain (free : drainAwaitsState session = false) :
    Unhindered (drainDeferredOutboundPublishes session).2 := by
  rw [drainDeferredOutboundPublishes]
  split
  · exact unhindered_nil
  · exact unhindered_drainLoop _ free

theorem unhindered_forceStop (session : Session) : Unhindered (forceStop session).2 :=
  unhindered_wait ⟨rfl, fun _ => trivial⟩

theorem unhindered_setState (state : ActivityState) (session : Session) :
    Unhindered (setState state session).2 := by
  refine List.forall_mem_append.mpr ⟨?_, ?_⟩
  · split
    · exact unhindered_nil
    · exact unhindered_of_ne Mode.noConfusion
  · exact unhindered_wait (leavesState_call _)

theorem unhindered_finishConnectionDisconnect (session : Session) :
    Unhindered (finishConnectionDisconnect session).2 := by
  rw [finishConnectionDisconnect]
  split
  · exact unhindered_of_ne Mode.noConfusion
  · split
    · exact unhindered_forceStop session
    · exact unhindered_setState .inactive session

theorem unhindered_disconnectNormally (session : Session) :
    Unhindered (disconnectNormally session).2 := by
  refine List.forall_mem_append.mpr ⟨?_, ?_⟩
  · exact unhindered_wait (leavesState_call _)
  · exact unhindered_finishConnectionDisconnect session

theorem unhindered_handleDisconnect (disconnect : Disconnect) (session : Session) :
    Unhindered (handleDisconnect disconnect session).2 := by
  rw [handleDisconnect]
  split
  · exact unhindered_disconnectNormally _
  · split
    · exact unhindered_disconnectNormally _
    · split
      · exact unhindered_wait ⟨rfl, fun _ => trivial⟩
      · exact unhindered_finishConnectionDisconnect _

theorem unhindered_ifConnected (away : session.connected = false) (start : SessionStart) :
    Unhindered (ifConnected session start).2 := by
  simp only [ifConnected, away]
  exact unhindered_nil

theorem unhindered_handlePacket {packet : Packet}
    (free : packetAwaitsState session packet = false) :
    Unhindered (handlePacket packet session).2 := by
  cases packet with
  | publish => exact unhindered_of_ne Mode.noConfusion
  | disconnect disconnect => exact unhindered_handleDisconnect disconnect session
  | subscribe _ | unsubscribe _ | pubrec _ | pubrel _ => exact unhindered_ifConnected free _
  | puback _ | pubcomp _ => cases free
  | _ => exact unhindered_nil

theorem unhindered_handleMessage {message : SessionActorMessage}
    (free : messageAwaitsState session message = false) :
    Unhindered (handleMessage message session).2 := by
  cases message with
  | inboundPacket =>
    apply unhindered_handlePacket
    exact free
  | outboundMessage packet | acceptRoutedPublish packet =>
    cases packet with
    | publish => exact unhindered_startDelivery free
    | _ => exact unhindered_nil
  | keepAliveExpired | unexpectClientDisconnected =>
    exact unhindered_wait (leavesState_sendWill _ _)
  | forceDisconnect =>
    rw [handleMessage]
    split
    · exact unhindered_wait ⟨rfl, fun _ => trivial⟩
    · exact unhindered_nil
  | clientDisconnected => exact unhindered_finishConnectionDisconnect session
  | forceStop => exact unhindered_forceStop session
  | inflightRetry | allInflightRetryImmediate | reconnect => cases free

theorem unhindered_completePublish (result : Except HandlePublishError (Option Packet))
    (session : Session) : Unhindered (completePublish result session).2 := by
  rw [completePublish.eq_def]
  split
  · split
    · rw [cleanupAfterPuback]
      split <;> exact unhindered_of_ne Mode.noConfusion
    · exact unhindered_nil
  all_goals exact unhindered_nil

theorem unhindered_completeResult {completion : Completion}
    (free : completionAwaitsState session completion = false) :
    Unhindered (completeResult completion session).2 := by
  cases completion with
  | nothing | stopNotified => exact unhindered_nil
  | recovered => exact unhindered_wait (leavesState_popPendingOnce session)
  | popped =>
    rw [completeResult]
    split
    · exact unhindered_wait (leavesState_popPendingOnce session)
    · exact unhindered_nil
  | delivered =>
    rw [completeResult, completeDelivery.eq_def]
    split
    · exact unhindered_nil
    · exact unhindered_nil
    all_goals
      split
      · rename_i reserve
        subst reserve
        exact unhindered_drain free
      · exact unhindered_nil
  | deliveredRegistered reserved =>
    rw [completeResult, completeRegistered.eq_def]
    split
    · exact unhindered_drain free
    · apply unhindered_drain
      cases reserved <;> exact free
    · exact unhindered_nil
  | published result => exact unhindered_completePublish result session
  | acknowledged cleanup release =>
    refine List.forall_mem_append.mpr ⟨?_, ?_⟩
    · split
      · exact unhindered_of_ne Mode.noConfusion
      · exact unhindered_nil
    · cases release with
      | true => exact unhindered_drain free
      | false => exact unhindered_nil
  | retried =>
    apply unhindered_drain
    simp only [completionAwaitsState, drainAwaitsState, List.any_eq_false] at free
    simp only [drainAwaitsState, List.any_eq_false]
    intro deferred kept
    exact free deferred (List.mem_of_mem_filter kept)
  | retriedAll => exact unhindered_drain free
  | keepAliveWillSent =>
    rw [completeResult]
    split
    · exact unhindered_finishConnectionDisconnect session
    · exact unhindered_nil
  | unexpectedWillSent | protocolErrorWritten =>
    exact unhindered_finishConnectionDisconnect session
  | forceDisconnected =>
    rw [completeResult]
    split
    · split
      · exact unhindered_forceStop session
      · exact unhindered_setState .inactive session
    · exact unhindered_nil
  | stateDeleted => exact unhindered_forceStop session

/-! ## Runs -/

theorem lock_surroundings {next : Session} {event : SurroundingEvent}
    (changed : surroundings session event = some next) : next.lock = session.lock := by
  rcases surroundings_fields changed with ⟨_, _, _, _, fields⟩
  rw [fields]

/-- While a spawned future has the lock or waits for it, the actor waits for no future that
uses the session state. -/
structure Moving (system : SessionSystem) : Prop where
  numbered : system.Numbered
  engaged : ∀ id, system.shared.lock.Engages id → id < system.nextId
  free : SpawnedEngages [] system → ∀ task ∈ system.tasks .wait, LeavesState task.current

variable {system : SessionSystem}

theorem Moving.not_deadlocked (moving : Moving system) : ¬ Deadlocked system := by
  intro ⟨⟨id, spawned, holds⟩, task, top, waits⟩
  have leaves := moving.free ⟨id, spawned, List.not_mem_nil, .inl holds⟩ task
    (List.mem_of_mem_head? top)
  cases current : task.current with
  | done =>
    rw [current] at waits
    exact waits
  | await op =>
    rw [current] at waits leaves
    have uses : op.usesState = true := waits
    rw [leaves.1] at uses
    cases uses

/-- Futures are started by a handler that finds a spawned future engaged with the lock, or
by one that finds none. -/
theorem moving_startAll {starts : List SessionStart} (moving : Moving system)
    (unhindered : SpawnedEngages [] system → Unhindered starts) :
    Moving (system.startAll starts) := by
  refine ⟨moving.numbered.startAll starts, ?_, ?_⟩
  · intro id engages
    rw [System.shared_startAll] at engages
    exact Nat.lt_of_lt_of_le (moving.engaged id engages) (System.nextId_le_startAll _ _)
  · intro ⟨id, spawned, _, engages⟩ task member
    rw [System.shared_startAll] at engages
    have before : SpawnedEngages [] system := ⟨id, System.mem_ids_of_startAll spawned
      (moving.engaged id engages), List.not_mem_nil, engages⟩
    rcases System.mem_startAll member with old | ⟨start, listed, _, _, waits, new⟩
    · exact moving.free before task old
    · rw [new]
      exact unhindered before start listed waits

variable {next : SessionSystem}

theorem moving_receive (moving : Moving system) (keeps : KeepsMoving system .receive)
    (stepped : step system .receive = some next) :
    Moving next := by
  rcases System.step_receive stepped with ⟨shared, starts, _, none, received, result⟩
  subst result
  have shares := shares_receive received
  apply moving_startAll
  · refine ⟨⟨moving.numbered.below, moving.numbered.apart, moving.numbered.distinct⟩, ?_, ?_⟩
    · intro id engages
      exact moving.engaged id (shares.lock ▸ engages)
    · intro _ task member
      rw [System.setShared, none] at member
      cases member
  · intro ⟨id, spawned, _, engages⟩
    have free := keeps ⟨id, spawned, List.not_mem_nil, shares.lock ▸ engages⟩
    have taken : receive system.shared = some (shared, starts) := received
    rw [receive] at taken
    split at taken
    · cases taken
    · rename_i message rest listed
      have handled := Option.some.inj taken
      have unhindered : Unhindered (handleMessage message
          { system.shared with mailbox := rest }).2 := by
        apply unhindered_handleMessage
        have first := free message (by rw [listed]; rfl)
        cases message with
        | inboundPacket packet | outboundMessage packet | acceptRoutedPublish packet =>
          cases packet <;> exact first
        | _ => exact first
      rw [handled] at unhindered
      exact unhindered

section Turn

variable {place : Place} {before after : List (Task Op.Answer Completion)}
  {task : Task Op.Answer Completion}

/-- A future is polled: it alone may have begun to be interested in the lock. -/
theorem moving_turn (moving : Moving system) (numbered : next.Numbered)
    (turn : System.Turn behaviour system place before task after)
    (ids : ∀ mode, next.ids mode = system.ids mode) (same : next.nextId = system.nextId)
    (lock : ∀ id, next.shared.lock.Engages id → id = task.id ∨ system.shared.lock.Engages id)
    (waiting : ∀ other ∈ next.tasks .wait, place.mode ≠ .spawn ∧
      ((∀ other ∈ system.tasks .wait, LeavesState other.current) → LeavesState other.current)) :
    Moving next := by
  refine ⟨numbered, ?_, ?_⟩
  · intro id engages
    rw [same]
    rcases lock id engages with own | old
    · rw [own]
      exact moving.numbered.below place.mode task.id turn.mem_ids
    · exact moving.engaged id old
  · intro ⟨id, spawned, _, engages⟩ other member
    rw [ids] at spawned
    rcases waiting other member with ⟨attached, leaves⟩
    apply leaves
    apply moving.free
    rcases lock id engages with own | old
    · rw [own] at spawned
      exact absurd (moving.numbered.apart _ .spawn task.id turn.mem_ids spawned) attached
    · exact ⟨id, spawned, List.not_mem_nil, old⟩

theorem moving_poll {choose : (op : Op) → op.Choice} (moving : Moving system)
    (stepped : step system (.poll place choose) = some next) : Moving next := by
  have numbered := moving.numbered.step stepped
  rcases System.step_poll stepped with ⟨_, task, _, _, _, shared, answer,
    suspended, _, turn, performed, result⟩
  subst result
  apply moving_turn moving numbered turn (turn.ids_resume suspended answer shared) rfl
    (perform_frame performed).lock
  intro other member
  rw [System.tasks_setShared] at member
  rcases turn.tasks_replace member with old | ⟨waits, new⟩
  · refine ⟨?_, fun leaves => leaves other old⟩
    -- A spawned future is polled only when there is nothing to wait for.
    intro spawns
    rw [turn.alone spawns] at old
    cases old
  · refine ⟨by rw [← waits]; exact Mode.noConfusion, fun leaves => ?_⟩
    have current := leaves task (waits ▸ turn.mem)
    rw [suspended] at current
    rw [new]
    exact current.2 answer

theorem moving_park (moving : Moving system) (stepped : step system (.park place) = some next) :
    Moving next := by
  have numbered := moving.numbered.step stepped
  rcases System.step_park stepped with ⟨_, task, _, _, _, shared, _, turn, parked, result⟩
  rcases park_eq_some parked with ⟨_, queued⟩
  subst result queued
  apply moving_turn moving numbered turn (fun _ => rfl) rfl fun _ engages => engages.of_enqueue
  intro other member
  refine ⟨?_, fun leaves => leaves other member⟩
  intro spawns
  have none : system.tasks .wait = [] := turn.alone spawns
  rw [System.tasks_setShared, none] at member
  cases member

theorem moving_finish (moving : Moving system) (keeps : KeepsMoving system (.finish place))
    (stepped : step system (.finish place) = some next) : Moving next := by
  rcases System.step_finish stepped with ⟨_, task, _, value, shared, starts, ended,
    found, turn, completed, result⟩
  subst result
  have shares := shares_complete task.id value system.shared
  have handled : complete task.id value system.shared = (shared, starts) := completed
  rw [handled] at shares
  have before : ∀ id, shared.lock.Engages id → system.shared.lock.Engages id := by
    intro id engages
    have released : (system.shared.release task.id).lock.Engages id := shares.lock ▸ engages
    exact released.of_release
  have drops := turn.ids_drop shared (task :: system.finished)
  apply moving_startAll
  · refine ⟨moving.numbered.of_sublist drops rfl, ?_, ?_⟩
    · intro id engages
      exact moving.engaged id (before id engages)
    · intro ⟨id, spawned, _, engages⟩ other member
      exact moving.free ⟨id, (drops .spawn).mem spawned, List.not_mem_nil, before id engages⟩
        other (turn.tasks_drop member)
  · intro ⟨id, spawned, _, engages⟩
    have other : id ∉ [task.id] := by
      rw [List.mem_singleton]
      intro own
      exact turn.notMem_ids_drop moving.numbered shared (task :: system.finished) (own ▸ spawned)
    have free := keeps task found ⟨id, (drops .spawn).mem spawned, other, before id engages⟩ value
      (by rw [ended]; rfl)
    have unhindered := unhindered_completeResult free
    rw [← complete, handled] at unhindered
    exact unhindered

end Turn

variable {input : SessionInput}

theorem moving_step (moving : Moving system) (keeps : KeepsMoving system input)
    (stepped : step system input = some next) : Moving next := by
  cases input with
  | receive => exact moving_receive moving keeps stepped
  | poll => exact moving_poll moving stepped
  | park => exact moving_park moving stepped
  | finish => exact moving_finish moving keeps stepped
  | environment =>
    have numbered := moving.numbered.step stepped
    rcases System.step_environment stepped with ⟨_, changed, result⟩
    subst result
    have same := lock_surroundings changed
    refine ⟨numbered, ?_, ?_⟩
    · intro id engages
      exact moving.engaged id (same ▸ engages)
    · intro ⟨id, spawned, apart, engages⟩
      exact moving.free ⟨id, spawned, apart, same ▸ engages⟩

theorem moving_initial (free : session.lock = .free) : Moving (initial session) := by
  apply moving_startAll
  · refine ⟨System.numbered_new _, ?_, ?_⟩
    · intro id engages
      have unused : FairLock.free.Engages id := free ▸ engages
      exact absurd unused (FairLock.not_engages_free id)
    · intro ⟨_, spawned, _⟩
      cases spawned
  · intro ⟨_, spawned, _⟩
    cases spawned

/-- In a run in which the actor never begins to wait for the session state while a spawned
future has the lock or waits for it, it is never deadlocked. -/
theorem never_deadlocked {session : Session} (free : session.lock = .free)
    (inputs : List SessionInput)
    (keeps : EachStep step KeepsMoving (initial session) inputs) :
    Throughout step (fun system => ¬ Deadlocked system) (initial session) inputs := by
  apply (throughout_of_eachStep _ (moving_initial free) keeps).mono fun _ => Moving.not_deadlocked
  intro system input next moving keeps stepped
  exact moving_step moving keeps stepped

/-! ## A deadlock -/

/-- The operations on the session state wait for the lock that another future has. -/
theorem perform_usesState {task holder : Nat} {op : Op}
    (held : session.lock.holder = some holder) (other : holder ≠ task)
    (uses : op.usesState = true) (choice : op.Choice) : perform task session op choice = none := by
  cases op with
  | access =>
    have blocked : session.mayAccess task = false := FairLock.admits_eq_false held other
    simp [perform, blocked]
  | acquire => simp [perform, FairLock.opens_eq_false held other]
  | _ => cases uses

/-- A deadlock without detached futures stays one. -/
theorem Deadlocked.step (deadlocked : Deadlocked system) (numbered : system.Numbered)
    (alone : system.tasks .detach = []) (stepped : SessionActor.step system input = some next) :
    Deadlocked next ∧ next.tasks .detach = [] := by
  rcases deadlocked with ⟨⟨id, spawned, held⟩, top, first, waits⟩
  rcases List.head?_eq_some_iff.mp first with ⟨_, listed⟩
  have topIds : top.id ∈ system.ids .wait := by
    rw [System.ids, listed]
    exact List.mem_cons_self
  have other : id ≠ top.id := by
    intro same
    have apart := numbered.apart .spawn .wait id spawned (same ▸ topIds)
    cases apart
  -- Only the top of the stack may be polled.
  have onlyTop : ∀ {place before task after},
      System.Turn behaviour system place before task after → task = top := by
    intro place before task after turn
    rcases place with ⟨mode, _⟩
    cases mode with
    | wait =>
      have first := turn.listed
      rw [turn.top rfl, listed] at first
      exact (List.cons.inj first).1.symm
    | spawn =>
      have none := turn.alone rfl
      rw [listed] at none
      cases none
    | detach =>
      have none := turn.listed
      rw [alone] at none
      simp at none
  cases input with
  | receive =>
    rcases System.step_receive stepped with ⟨_, _, _, none, _⟩
    rw [listed] at none
    cases none
  | poll place choose =>
    rcases System.step_poll stepped with ⟨before, task, after, op, _, shared, _,
      suspended, found, turn, performed, _⟩
    have same := onlyTop turn
    subst same
    rw [suspended] at waits
    have none : behaviour.perform task.id system.shared op (choose op) = none :=
      perform_usesState held other waits (choose op)
    rw [none] at performed
    cases performed
  | finish =>
    rcases System.step_finish stepped with ⟨_, _, _, _, shared, _, ended, _, turn, _⟩
    have same := onlyTop turn
    subst same
    rw [ended] at waits
    exact waits.elim
  | park =>
    rcases System.step_park stepped with ⟨_, _, _, _, _, _, _, _, parked, result⟩
    rcases park_eq_some parked with ⟨_, queued⟩
    subst result queued
    exact ⟨⟨⟨id, spawned, held⟩, top, first, waits⟩, alone⟩
  | environment =>
    rcases System.step_environment stepped with ⟨_, changed, result⟩
    subst result
    refine ⟨⟨⟨id, spawned, ?_⟩, top, first, waits⟩, alone⟩
    rw [← held]
    exact congrArg FairLock.holder (lock_surroundings changed)

/-- A deadlock without detached futures lasts. -/
theorem Deadlocked.run {final : SessionSystem} {inputs : List SessionInput}
    (deadlocked : Deadlocked system) (numbered : system.Numbered)
    (alone : system.tasks .detach = [])
    (runs : Semantics.run SessionActor.step system inputs = some final) :
    Deadlocked final := by
  have kept : final.Numbered ∧ Deadlocked final ∧ final.tasks .detach = [] := by
    apply run_invariant _ ⟨numbered, deadlocked, alone⟩ runs
    intro state input next ⟨numbered, deadlocked, alone⟩ stepped
    exact ⟨numbered.step stepped, deadlocked.step numbered alone stepped⟩
  exact kept.2.1

def persistentConfig : SessionActorConfig where
  tenantId := "t"
  clientId := "c"
  cleanSession := false
  protocolVersion := .v5_0
  sessionExpiryInterval := some 60
  receiveMaximum := 10
  willMessage := none
  sessionState := .newWithOptions 20 (some .v5_0) (some 60)

def persistentSession : Session :=
  .new persistentConfig 0 (SessionStateStorage.new.createSessionState "t" "c" 20 (some .v5_0)
    (some 60)) ∅

def noOrders : Access.Orders where
  subscriptionOrder := []
  itemOrder := []
  keyOrder := []

def pollTop (orders : Access.Orders) : SessionInput :=
  .poll ⟨.wait, 0⟩ (granting "k" orders)

def startUp : List SessionInput :=
  List.replicate 4 (pollTop noOrders) ++ [.finish ⟨.wait, 0⟩, pollTop noOrders,
    .finish ⟨.wait, 0⟩, .receive] ++ List.replicate 3 (pollTop noOrders) ++ [.finish ⟨.wait, 0⟩]

def somePublish (packetIdentifier : Option UInt16) : Publish where
  protocolVersion := .v5_0
  topicName := "a"
  payload := [1]
  qos := 1
  retain := false
  dup := false
  packetIdentifier := packetIdentifier
  messageExpiryInterval := none
  expiresAtUnixSecs := none

/-- The client publishes while a message for it arrives. The PUBLISH is handled up to the
guard; then the delivery of the message begins. -/
def crossingMessages : List SessionInput :=
  startUp ++ [.environment (.post (.inboundPacket (.publish (somePublish (some 1))))),
    .environment (.post (.outboundMessage (.publish (somePublish none)))), .receive] ++
      List.replicate 5 (.poll ⟨.spawn, 0⟩ (granting "k" noOrders)) ++ [.receive, pollTop noOrders]

/-- Two PUBLISH packets of the client are handled. The second one takes the guard first, and
the first one is put into the queue. When the second one is done, a PUBACK is received before
the first one is polled. -/
def handedOver : List SessionInput :=
  startUp ++ [.environment (.post (.inboundPacket (.publish (somePublish (some 1))))),
    .environment (.post (.inboundPacket (.publish (somePublish (some 2))))), .receive, .receive] ++
      List.replicate 5 (.poll ⟨.spawn, 1⟩ (granting "k" noOrders)) ++
      List.replicate 4 (.poll ⟨.spawn, 0⟩ (granting "k" noOrders)) ++ [.park ⟨.spawn, 0⟩] ++
      List.replicate 5 (.poll ⟨.spawn, 1⟩ (granting "k" noOrders)) ++ [.finish ⟨.spawn, 1⟩,
        .poll ⟨.detach, 0⟩ (granting "k" noOrders), .finish ⟨.detach, 0⟩,
        .environment (.post (.inboundPacket (.puback (successAck 9)))), .receive]

def EndsDeadlocked (inputs : List SessionInput) : Prop :=
  ∃ system, Semantics.run step (initial persistentSession) inputs = some system ∧
    Deadlocked system ∧ ∀ later final,
      Semantics.run step system later = some final → Deadlocked final

theorem endsDeadlocked {inputs : List SessionInput}
    (observed : (Semantics.run step (initial persistentSession) inputs).map (fun system =>
      (decide (Deadlocked system), (system.tasks .detach).isEmpty)) = some (true, true)) :
    EndsDeadlocked inputs := by
  rcases Option.map_eq_some_iff.mp observed with ⟨system, runs, seen⟩
  simp only [Prod.mk.injEq, decide_eq_true_eq, List.isEmpty_iff] at seen
  have numbered : system.Numbered := by
    apply run_invariant _ _ runs
    · intro state input next numbered stepped
      exact numbered.step stepped
    · exact (System.numbered_new _).startAll _
  refine ⟨system, runs, seen.1, ?_⟩
  intro later final goesOn
  exact seen.1.run numbered seen.2 goesOn

/-- A future that the actor waits for waits for the lock that a PUBLISH of the client has,
because that keeps the guard or because it was handed the lock, and no step of the actor
leads out of this. -/
theorem crossingMessages_deadlock :
    EndsDeadlocked crossingMessages ∧ EndsDeadlocked handedOver := by
  constructor
  · apply endsDeadlocked
    decide +kernel
  · apply endsDeadlocked
    decide +kernel

def lonelyPublish : List SessionInput :=
  startUp ++ [.environment (.post (.inboundPacket (.publish (somePublish (some 1))))),
    .receive] ++ List.replicate 10 (.poll ⟨.spawn, 0⟩ (granting "k" noOrders)) ++
      [.finish ⟨.spawn, 0⟩]

theorem never_deadlocked_lonelyPublish :
    ∃ final, Semantics.run step (initial persistentSession) lonelyPublish = some final ∧
      final.shared.routed = [(3, somePublish (some 1))] ∧ ¬ Deadlocked final := by
  have observed : (Semantics.run step (initial persistentSession) lonelyPublish).map
      (fun final => final.shared.routed) = some [(3, somePublish (some 1))] := by
    decide +kernel
  rcases Option.map_eq_some_iff.mp observed with ⟨final, runs, seen⟩
  refine ⟨final, runs, seen, ?_⟩
  apply never_deadlocked rfl lonelyPublish _ lonelyPublish List.prefix_rfl final runs
  exact eachStep_of_allowedSteps (by decide +kernel)

end YedMQ.SessionActor
