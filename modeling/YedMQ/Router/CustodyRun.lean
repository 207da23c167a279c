import YedMQ.Router.RouteCustody

/-! # Custody along every run

Every worker keeps the discipline of custody, so every interleaving of them does.
-/

namespace YedMQ.Router

open Semantics Future RouteState

variable {config : RouteRetryConfig} {route : DurableRoute}

/-- The workers that are started, and what is known about their copies. -/
inductive Launched (config : RouteRetryConfig) (route : DurableRoute) (state : RouteState) :
    RouteWorker → Prop where
  | dispatch (item : RouteOutboxItem)
      (known : state.CopyKnown config route item.expiryAt item.attempts) :
      Launched config route state ⟨.dispatch, dispatchOutboxItem config route item⟩
  | scanOutbox : Launched config route state ⟨.dispatch, processRouteOutbox config route⟩
  | handler (call : Nat) (request : RoutePacketRequest)
      (known : state.RequestKnown config route request) :
      Launched config route state ⟨.handler call, routeFromOtherNode config route request⟩
  | process (item : RouteInboxItem) (known : state.InboxKnown config route item) :
      Launched config route state ⟨.process, processInboxItem config route item⟩
  | scanInbox : Launched config route state ⟨.process, processRouteInbox config route⟩
  | cleanup : Launched config route state ⟨.cleanup, cleanupCompletedInboxItems config⟩

/-- What a worker relies on. Only one worker enqueues the route. -/
structure Since (config : RouteRetryConfig) (route : DurableRoute) (task : RouteTask)
    (before after : RouteState) : Prop where
  later : Later config route before after
  spares : task = .enqueue → Spares config route before after

variable {before after : RouteState}

theorem Since.trans {task : RouteTask} {middle : RouteState}
    (first : Since config route task before middle) (second : Since config route task middle after)
    : Since config route task before after where
  later := first.later.trans second.later
  spares := fun enqueues => (first.spares enqueues).trans (second.spares enqueues)

theorem RouteState.Spares.since (spares : Spares config route before after) (task : RouteTask) :
    Since config route task before after :=
  ⟨spares.later, fun _ => spares⟩

def custody (config : RouteRetryConfig) (route : DurableRoute) :
    Discipline (routing config route) where
  Holds := fun state => state.Sound config route
  Relies := fun task before after => Since config route task before after
  Rests := fun _ _ => True
  Compatible := fun one other => ¬ (one = .enqueue ∧ other = .enqueue)
  Permits := fun _ _ _ _ => True
  Admits := fun _ _ => True
  Launches := fun start state => Launched config route state start
  unchanged := fun task state => (Spares.refl state).since task
  trans := fun _ _ _ _ first second => first.trans second

section Rules

variable {task : RouteTask} {state : RouteState}

variable {before after : RouteState}

theorem RouteState.Safe.keeps (safe : Safe config route before after) (task : RouteTask) :
    (custody config route).Keeps task before after :=
  ⟨safe.sound, fun other _ => safe.spares.since other, fun _ _ _ => trivial⟩

/-- What only the router knows, the others do not rely on. -/
theorem RouteState.Later.keeps (later : Later config route before after)
    (sound : after.Sound config route) :
    (custody config route).Keeps .enqueue before after := by
  refine ⟨sound, ?_, fun _ _ _ => trivial⟩
  intro other compatible
  exact ⟨later, fun enqueues => absurd ⟨rfl, enqueues⟩ compatible⟩

variable {op : RouteOp}

/-- An operation that everyone can rely on. -/
theorem respects_perform {next : op.Answer → RouteFut RouteResult}
    (rule : ∀ current, Since config route task state current → current.Sound config route →
      ∀ choice after answer starts,
      RouteState.perform config route task current op choice = some (after, answer, starts) →
      Safe config route current after ∧ (∀ start ∈ starts, Launched config route after start) ∧
        (custody config route).Respects task after (next answer)) :
    (custody config route).Respects task state (Future.perform op >>= next) := by
  intro current since sound choice after answer starts _ performed
  rcases rule current since sound choice after answer starts performed with
    ⟨safe, launched, rest⟩
  exact ⟨safe.keeps task, launched, rest⟩

/-- An operation that changes nothing, and what its answer tells. -/
theorem respects_read {next : op.Answer → RouteFut RouteResult}
    {Tells : RouteState → op.Answer → Prop}
    (rest : (custody config route).Continues task state next Tells)
    (same : ∀ current choice after answer starts, current.Sound config route →
      RouteState.perform config route task current op choice = some (after, answer, starts) →
      after = current ∧ starts = [] ∧ Tells current answer) :
    (custody config route).Respects task state (Future.perform op >>= next) := by
  apply respects_perform
  intro current since sound choice after answer starts performed
  rcases same current choice after answer starts sound performed with ⟨rfl, rfl, tells⟩
  exact ⟨sound.unchanged, List.forall_mem_nil _, rest answer after since tells⟩

/-- An operation of a store, which may fail and change nothing. -/
theorem respects_store {next : op.Answer → RouteFut RouteResult} (change : RouteState → RouteState)
    (result : RouteResult → op.Answer) (choice : op.Choice → Option RouterActorError)
    (performs : ∀ current chosen, RouteState.perform config route task current op chosen =
      some ((storing (choice chosen) current (change current)).1,
        result (storing (choice chosen) current (change current)).2, []))
    (safe : ∀ current, Since config route task state current → current.Sound config route →
      Safe config route current (change current))
    (rest : (custody config route).Continues task state (fun answer => next (result answer))
      fun after answer =>
        answer = .ok () → after.Sound config route ∧ ∃ current, after = change current) :
    (custody config route).Respects task state (Future.perform op >>= next) := by
  apply respects_perform
  intro current since sound chosen after answer starts performed
  rw [performs] at performed
  cases performed
  have changes := safe current since sound
  cases failure : choice chosen with
  | none =>
    refine ⟨changes, List.forall_mem_nil _, ?_⟩
    exact rest (.ok ()) _ (since.trans (changes.spares.since task))
      fun _ => ⟨changes.sound, current, rfl⟩
  | some error =>
    refine ⟨sound.unchanged, List.forall_mem_nil _, rest (.error error) current since ?_⟩
    intro answered
    cases answered

theorem respects_now {next : Nat → RouteFut RouteResult} (ordinary : task ≠ .enqueue)
    (rest : ∀ time after, Since config route task state after → time ≤ after.history.latest →
      (custody config route).Respects task after (next time)) :
    (custody config route).Respects task state (nowSecs >>= next) := by
  apply respects_perform
  intro current since sound time after answer starts performed
  cases performed
  have remembers : Remembers current.history (noteClock task time current.history) :=
    remembers_noteClock time fun enqueues => absurd enqueues ordinary
  have recorded := sound.record remembers (if_neg ordinary) rfl
  refine ⟨recorded, List.forall_mem_nil _, ?_⟩
  exact rest time _ (since.trans (recorded.spares.since task)) (le_max_right _ _)

theorem respects_increaseMessagesDropped {next : Unit → RouteFut RouteResult}
    (rest : ∀ after, Since config route task state after →
      (custody config route).Respects task after (next ())) :
    (custody config route).Respects task state (increaseMessagesDropped >>= next) := by
  apply respects_read (fun _ after since (_ : True) => rest after since)
  intro current choice after answer starts _ performed
  cases performed
  exact ⟨rfl, rfl, trivial⟩

theorem respects_getNode {next : Bool → RouteFut RouteResult}
    (rest : ∀ found after, Since config route task state after →
      (custody config route).Respects task after (next found)) :
    (custody config route).Respects task state (getNode >>= next) := by
  refine respects_read (fun found after since (_ : True) => rest found after since) ?_
  intro current choice after answer starts _ performed
  cases performed
  exact ⟨rfl, rfl, trivial⟩

theorem value_of_reading {α : Type} {failure : Option RouterActorError} {value read : α}
    (answered : reading failure value = .ok read) : value = read := by
  cases failure with
  | none => exact Except.ok.inj answered
  | some => cases answered

variable {node : RouteNode}

theorem respects_getPayload {next : Except RouterActorError (Option Packet) → RouteFut RouteResult}
    (rest : (custody config route).Continues task state next fun _ answer =>
      ∀ packet, answer = .ok (some packet) → packet = route.packet) :
    (custody config route).Respects task state (getPayload node >>= next) := by
  apply respects_read rest
  intro current failure after answer starts sound performed
  cases performed
  refine ⟨rfl, rfl, ?_⟩
  intro packet answered
  exact sound.payloads node packet (value_of_reading answered)

theorem respects_getOutbox
    {next : Except RouterActorError (Option RouteOutboxItem) → RouteFut RouteResult}
    (rest : (custody config route).Continues task state next fun after answer =>
      ∀ item, answer = .ok (some item) →
        after.CopyKnown config route item.expiryAt item.attempts) :
    (custody config route).Respects task state (getOutbox >>= next) := by
  apply respects_read rest
  intro current failure after answer starts sound performed
  cases performed
  refine ⟨rfl, rfl, ?_⟩
  intro item answered
  exact sound.outbox item (value_of_reading answered)

theorem respects_getInbox
    {next : Except RouterActorError (Option RouteInboxItem) → RouteFut RouteResult}
    (rest : (custody config route).Continues task state next fun after answer =>
      ∀ item, answer = .ok (some item) →
        after.InboxKnown config route item ∧ after.Taken config route) :
    (custody config route).Respects task state (getInbox >>= next) := by
  apply respects_read rest
  intro current failure after answer starts sound performed
  cases performed
  refine ⟨rfl, rfl, ?_⟩
  intro item answered
  have present := value_of_reading answered
  exact ⟨sound.inbox item present, sound.taken_of_inbox present⟩

variable {next : RouteResult → RouteFut RouteResult}

theorem respects_awaitResponse {call : Nat}
    (rest : (custody config route).Continues task state next fun after answer =>
      answer = .ok () → after.Taken config route) :
    (custody config route).Respects task state (awaitResponse call >>= next) := by
  apply respects_read rest
  intro current failure after answer starts sound performed
  cases failure with
  | none =>
    rcases Option.map_eq_some_iff.mp performed with ⟨_, responded, same⟩
    cases same
    refine ⟨rfl, rfl, ?_⟩
    intro answered
    rw [answered] at responded
    exact sound.responses call responded
  | some =>
    cases performed
    refine ⟨rfl, rfl, ?_⟩
    intro answered
    cases answered

theorem respects_sendRequest {request : RoutePacketRequest} {next : Nat → RouteFut RouteResult}
    (known : state.RequestKnown config route request)
    (rest : ∀ call after, Since config route task state after →
      (custody config route).Respects task after (next call)) :
    (custody config route).Respects task state (sendRequest request >>= next) := by
  apply respects_perform
  intro current since sound choice after answer starts performed
  cases performed
  have safe := sound.setSent current.calls (current.calls + 1) (some request) (by
    intro content same
    cases same
    exact known.later since.later)
  exact ⟨safe, List.forall_mem_nil _, rest _ _ (since.trans (safe.spares.since task))⟩

theorem respects_putPayload {packet : Packet} (own : packet = route.packet)
    (rest : (custody config route).Continues task state next fun after answer =>
      answer = .ok () → after.payloads node = some route.packet) :
    (custody config route).Respects task state (putPayload node packet >>= next) := by
  subst own
  apply respects_store (fun current => current.setPayload node (some route.packet)) id id
  · intro current chosen
    rfl
  · intro current _ sound
    exact sound.putPayload node
  · intro answer after since stored
    apply rest answer after since
    intro answered
    rcases stored answered with ⟨_, _, result⟩
    rw [result]
    exact payloads_setPayload_self node _

theorem respects_deletePayload
    (safe : ∀ current, Since config route task state current → current.Sound config route →
      Safe config route current (current.setPayload node none))
    (rest : ∀ answer after, (custody config route).Respects task after (next answer)) :
    (custody config route).Respects task state (deletePayload node >>= next) := by
  apply respects_store (fun current => current.setPayload node none) id id
  · intro current chosen
    rfl
  · exact safe
  · intro answer after _ _
    exact rest answer after

theorem respects_putOutbox {item : RouteOutboxItem}
    (expires : state.ExpiresBy config route item.expiryAt)
    (rest : (custody config route).Continues task state next fun after answer =>
      answer = .ok () → (∃ stored, after.outbox = some stored) ∧
        after.CopyKnown config route item.expiryAt item.attempts) :
    (custody config route).Respects task state (putOutbox item >>= next) := by
  apply respects_store (fun current => current.withOutbox config item) id id
  · intro current chosen
    rfl
  · intro current since sound
    exact sound.putOutbox (expires.later since.later)
  · intro answer after since stored
    apply rest answer after since
    intro answered
    rcases stored answered with ⟨sound, _, result⟩
    subst result
    exact ⟨⟨item, rfl⟩, sound.outbox item rfl⟩

theorem respects_deleteOutbox (taken : state.Taken config route)
    (rest : ∀ answer after, Since config route task state after →
      (custody config route).Respects task after (next answer)) :
    (custody config route).Respects task state (deleteOutbox >>= next) := by
  apply respects_store (fun current => current.setOutbox none) id id
  · intro current chosen
    rfl
  · intro current since sound
    exact sound.deleteOutbox (since.later.taken taken)
  · intro answer after since _
    exact rest answer after since

theorem respects_putInbox {item : RouteInboxItem}
    (expires : state.ExpiresBy config route item.expiryAt)
    (pending : item.status = .pending → state.Stored config route)
    (completed : item.status = .completed → state.Settled config route)
    (rest : (custody config route).Continues task state next fun after answer =>
      answer = .ok () → after.InboxKnown config route item ∧ after.Taken config route) :
    (custody config route).Respects task state (putInbox item >>= next) := by
  apply respects_store (fun current => current.withInbox config item) id id
  · intro current chosen
    rfl
  · intro current since sound
    exact sound.putInbox (expires.later since.later)
      (fun status => since.later.stored (pending status))
      fun status => since.later.settled (completed status)
  · intro answer after since stored
    apply rest answer after since
    intro answered
    rcases stored answered with ⟨sound, _, result⟩
    subst result
    exact ⟨sound.inbox item rfl, sound.taken_of_inbox rfl⟩

theorem respects_deleteInbox (settled : state.Settled config route)
    (rest : ∀ answer after, (custody config route).Respects task after (next answer)) :
    (custody config route).Respects task state (deleteInbox >>= next) := by
  apply respects_store (fun current => (current.setInbox none).record noteRemoval) id id
  · intro current chosen
    rfl
  · intro current since sound
    exact sound.deleteInbox (since.later.settled settled)
  · intro answer after _ _
    exact rest answer after

theorem respects_acceptRoutedPublish {packet : Packet}
    (rest : (custody config route).Continues task state next fun after answer =>
      answer = .ok () → after.Settled config route) :
    (custody config route).Respects task state (routeToLocalSessionDurable packet >>= next) := by
  apply respects_perform
  intro current since sound delivery after answer starts performed
  cases performed
  have recorded := sound.record (remembers_noteDelivery delivery current.history) rfl rfl
  refine ⟨recorded, List.forall_mem_nil _, ?_⟩
  apply rest delivery.result _ (since.trans (recorded.spares.since task))
  intro answered
  left
  simp [RouteState.record, noteDelivery, answered, Except.toBool, Bool.or_true]

theorem respects_spawn {next : op.Answer → RouteFut RouteResult} (start : RouteWorker)
    (answer : op.Answer)
    (performs : ∀ current choice, RouteState.perform config route task current op choice =
      some (current, answer, [start]))
    (launched : ∀ after, Later config route state after → Launched config route after start)
    (rest : ∀ after, Since config route task state after →
      (custody config route).Respects task after (next answer)) :
    (custody config route).Respects task state (Future.perform op >>= next) := by
  apply respects_perform
  intro current since sound choice after given starts performed
  rw [performs] at performed
  cases performed
  exact ⟨sound.unchanged, List.forall_mem_singleton.mpr (launched current since.later),
    rest current since⟩

theorem respects_return {result : RouteResult} (ordinary : task ≠ .enqueue)
    (answered : ∀ call, task = .handler call → result = .ok () → state.Taken config route) :
    (custody config route).Respects task state (pure result) := by
  intro current since sound
  have safe : Safe config route current (RouteState.finish task result current) := by
    cases task with
    | enqueue => exact absurd rfl ordinary
    | handler call =>
      apply sound.respond call
      intro fine
      exact since.later.taken (answered call rfl fine)
    | dispatch | process | cleanup => exact sound.unchanged
  exact ⟨safe.keeps task, trivial⟩

end Rules

/-! ## The workers -/

section Workers

variable {task : RouteTask} {state : RouteState}

/-- Only handlers and the router have to answer for what they return. -/
def RouteTask.Unheard (task : RouteTask) : Prop :=
  task ≠ .enqueue ∧ ∀ call, task ≠ .handler call

theorem unheard_dispatch : RouteTask.dispatch.Unheard :=
  ⟨nofun, nofun⟩

theorem unheard_process : RouteTask.process.Unheard :=
  ⟨nofun, nofun⟩

theorem unheard_cleanup : RouteTask.cleanup.Unheard :=
  ⟨nofun, nofun⟩

variable {result : RouteResult}

theorem respects_return_unheard (unheard : task.Unheard) :
    (custody config route).Respects task state (pure result) := by
  apply respects_return unheard.1
  intro call same
  exact absurd same (unheard.2 call)

theorem respects_dropOutboxItem (taken : state.Taken config route) :
    (custody config route).Respects .dispatch state dropOutboxItem := by
  apply respects_increaseMessagesDropped
  intro dropped ⟨later, _⟩
  have stillTaken := later.taken taken
  apply respects_deleteOutbox stillTaken
  intro _ deleted ⟨more, _⟩
  apply respects_deletePayload
  · intro current further sound
    exact sound.deletePayload_source (further.later.taken (more.taken stillTaken))
  · intro _ after
    exact respects_return_unheard unheard_dispatch

variable {item : RouteOutboxItem} {error : RouterActorError}

theorem respects_retryOutboxItem {now : Nat}
    (expires : state.ExpiresBy config route item.expiryAt) :
    (custody config route).Respects .dispatch state (retryOutboxItem config now item error) := by
  apply respects_putOutbox
  · exact expires
  · intro answer after _ _
    cases answer <;> exact respects_return_unheard unheard_dispatch

/-- After a successful call the source may forget the route, and after a failed one it
stores its copy again. -/
theorem respects_dispatchOutboxItem
    (known : state.CopyKnown config route item.expiryAt item.attempts) :
    (custody config route).Respects .dispatch state (dispatchOutboxItem config route item) := by
  apply respects_now (by decide)
  intro now clocked ⟨later, _⟩ read
  replace known := known.later later
  split
  · rename_i finished
    exact respects_dropOutboxItem (.inl (known.settled finished read))
  split
  · exact respects_return_unheard unheard_dispatch
  apply respects_getNode
  intro found resolved ⟨later, _⟩
  replace known := known.later later
  replace read := le_trans read later.time
  split
  · apply respects_getPayload
    intro answer got ⟨later, _⟩ own
    replace known := known.later later
    replace read := le_trans read later.time
    rcases answer with error | _ | packet
    · exact respects_return_unheard unheard_dispatch
    · exact respects_return_unheard unheard_dispatch
    · have same := own packet rfl
      dsimp only
      split
      · rename_i expired
        rw [same] at expired
        exact respects_dropOutboxItem (.inl (known.expires.settled_of_isExpired expired read))
      · apply respects_sendRequest ⟨same, known.expires⟩
        intro call called ⟨later, _⟩
        replace known := known.later later
        apply respects_awaitResponse
        intro answer responded ⟨later, _⟩ taken
        replace known := known.later later
        cases answer with
        | error => exact respects_retryOutboxItem known.expires
        | ok done =>
          apply respects_deleteOutbox (taken rfl)
          intro answer deleted ⟨later, _⟩
          cases answer with
          | error => exact respects_return_unheard unheard_dispatch
          | ok =>
            apply respects_deletePayload
            · intro current further sound
              exact sound.deletePayload_source (further.later.taken (later.taken (taken rfl)))
            · intro _ after
              exact respects_return_unheard unheard_dispatch
  · exact respects_retryOutboxItem known.expires

theorem respects_processRouteOutbox :
    (custody config route).Respects .dispatch state (processRouteOutbox config route) := by
  apply respects_getOutbox
  intro answer after _ known
  rcases answer with error | _ | item
  · exact respects_return_unheard unheard_dispatch
  · exact respects_return_unheard unheard_dispatch
  · exact respects_dispatchOutboxItem (known item rfl)

theorem respects_completeInboxItem {now : Nat} {item : RouteInboxItem}
    (expires : state.ExpiresBy config route item.expiryAt)
    (settled : state.Settled config route) :
    (custody config route).Respects .process state (completeInboxItem now item) := by
  apply respects_putInbox
  · exact expires
  · intro pending
    cases pending
  · intro _
    exact settled
  · intro answer stored ⟨later, _⟩ _
    cases answer with
    | error => exact respects_return_unheard unheard_process
    | ok =>
      apply respects_deletePayload
      · intro current further sound
        exact sound.deletePayload_destination (further.later.settled (later.settled settled))
      · intro _ after
        exact respects_return_unheard unheard_process

theorem respects_processInboxItem {item : RouteInboxItem}
    (known : state.InboxKnown config route item) :
    (custody config route).Respects .process state (processInboxItem config route item) := by
  rw [processInboxItem]
  split
  · exact respects_return_unheard unheard_process
  rename_i incomplete
  apply respects_now (by decide)
  intro now clocked ⟨later, _⟩ read
  replace known := known.later later
  split
  · rename_i finished
    have settled := known.copy.settled finished read
    apply respects_increaseMessagesDropped
    intro dropped ⟨later, _⟩
    exact respects_completeInboxItem (known.copy.expires.later later) (later.settled settled)
  split
  · exact respects_return_unheard unheard_process
  apply respects_getPayload
  intro answer got ⟨later, _⟩ own
  replace known := known.later later
  replace read := le_trans read later.time
  rcases answer with error | _ | packet
  · exact respects_return_unheard unheard_process
  · exact respects_return_unheard unheard_process
  · have same := own packet rfl
    dsimp only
    split
    · rename_i expired
      rw [same] at expired
      have settled := known.copy.expires.settled_of_isExpired expired read
      apply respects_increaseMessagesDropped
      intro dropped ⟨later, _⟩
      exact respects_completeInboxItem (known.copy.expires.later later) (later.settled settled)
    · apply respects_acceptRoutedPublish
      intro answer delivered ⟨later, _⟩ settled
      replace known := known.later later
      cases answer with
      | ok => exact respects_completeInboxItem known.copy.expires (settled rfl)
      | error =>
        apply respects_putInbox
        · exact known.copy.expires
        · exact known.pending
        · intro completed
          exact absurd completed incomplete
        · intro answer after _ _
          cases answer <;> exact respects_return_unheard unheard_process

theorem respects_processRouteInbox :
    (custody config route).Respects .process state (processRouteInbox config route) := by
  apply respects_getInbox
  intro answer after _ known
  rcases answer with error | _ | item
  · exact respects_return_unheard unheard_process
  · exact respects_return_unheard unheard_process
  · exact respects_processInboxItem (known item rfl).1

theorem respects_cleanupCompletedInboxItems :
    (custody config route).Respects .cleanup state (cleanupCompletedInboxItems config) := by
  apply respects_now (by decide)
  intro now clocked _ _
  apply respects_getInbox
  intro answer got _ known
  rcases answer with error | _ | item
  · exact respects_return_unheard unheard_cleanup
  · exact respects_return_unheard unheard_cleanup
  · dsimp only
    split
    · rename_i completed _
      split
      · apply respects_deleteInbox ((known item rfl).1.completed completed)
        intro _ after
        exact respects_return_unheard unheard_cleanup
      · exact respects_return_unheard unheard_cleanup
    · exact respects_return_unheard unheard_cleanup

variable {call : Nat}

theorem respects_return_error :
    (custody config route).Respects (.handler call) state (pure (.error error)) := by
  apply respects_return
  · intro same
    cases same
  · intro _ _ answered
    cases answered

theorem respects_return_taken (taken : state.Taken config route) :
    (custody config route).Respects (.handler call) state (pure (.ok ())) := by
  apply respects_return
  · intro same
    cases same
  · intro _ _ _
    exact taken

variable {request : RoutePacketRequest}

/-- The handler reports success when there is a row, or the packet has expired. -/
theorem respects_acceptRouteFromOtherNode (known : state.RequestKnown config route request) :
    (custody config route).Respects (.handler call) state
      (acceptRouteFromOtherNode config request) := by
  apply respects_now (by intro same; cases same)
  intro first clocked ⟨later, _⟩ read
  replace known := known.later later
  split
  · rename_i expired
    rw [known.packet] at expired
    have settled := known.expires.settled_of_isExpired expired read
    apply respects_increaseMessagesDropped
    intro dropped ⟨later, _⟩
    exact respects_return_taken (.inl (later.settled settled))
  apply respects_getInbox
  intro answer got ⟨later, _⟩ row
  replace known := known.later later
  rcases answer with error | _ | item
  · exact respects_return_error
  · apply respects_putPayload known.packet
    intro answer put ⟨later, _⟩ payload
    replace known := known.later later
    cases answer with
    | error => exact respects_return_error
    | ok done =>
      have stored : put.Stored config route := .inr (payload rfl)
      apply respects_now (by intro same; cases same)
      intro now clocked ⟨later, _⟩ _
      replace known := known.later later
      apply respects_putInbox
      · rw [newInboxItem]
        split
        · exact known.expires
        · rcases known.expires with ⟨time, enqueued, _⟩
          exact ⟨time, enqueued, by omega⟩
      · intro _
        exact later.stored stored
      · intro completed
        cases completed
      · intro answer written ⟨later, _⟩ row
        cases answer with
        | error => exact respects_return_error
        | ok =>
          refine respects_spawn _ () (fun _ _ => rfl) ?_ ?_
          · intro after later
            exact .process _ ((row rfl).1.later later)
          · intro after ⟨later, _⟩
            exact respects_return_taken (later.taken (row rfl).2)
  · exact respects_return_taken (row item rfl).2

theorem respects_routeFromOtherNode (targeted : route.targetClientId.isEmpty = false)
    (known : state.RequestKnown config route request) :
    (custody config route).Respects (.handler call) state
      (routeFromOtherNode config route request) := by
  rw [routeFromOtherNode, targeted]
  exact respects_acceptRouteFromOtherNode known

/-! ### The router -/

theorem respects_perform_enqueue {op : RouteOp} {next : op.Answer → RouteFut RouteResult}
    (rule : ∀ current, Spares config route state current → current.Sound config route →
      ∀ choice after answer starts,
      RouteState.perform config route .enqueue current op choice = some (after, answer, starts) →
      Later config route current after ∧ after.Sound config route ∧ starts = [] ∧
        (custody config route).Respects .enqueue after (next answer)) :
    (custody config route).Respects .enqueue state (Future.perform op >>= next) := by
  intro current since sound choice after answer starts _ performed
  rcases rule current (since.spares rfl) sound choice after answer starts performed with
    ⟨later, kept, none, rest⟩
  subst none
  exact ⟨later.keeps kept, List.forall_mem_nil _, rest⟩

/-- The router may go on when it has failed, or when the route is secured. -/
theorem respects_return_enqueue (secured : result = .ok () → state.Secured config route) :
    (custody config route).Respects .enqueue state (pure result) := by
  intro current since sound
  have remembers : Remembers current.history (RouteState.finish .enqueue result current).history :=
    ⟨le_rfl, fun _ known => known, id, id⟩
  have later : Later config route current (RouteState.finish .enqueue result current) :=
    remembers.later id id
  have still : current.Secured config route →
      (RouteState.finish .enqueue result current).Secured config route := by
    rintro (taken | has)
    · exact .inl (later.taken taken)
    · exact .inr has
  refine ⟨later.keeps { sound.carried later with enqueued := ?_ }, trivial⟩
  intro enqueued
  rcases (Bool.or_eq_true _ _).mp enqueued with before | succeeded
  · exact sound.enqueued before
  · cases result with
    | error => cases succeeded
    | ok => exact (since.spares rfl).secured (secured rfl)

theorem respects_now_enqueue {next : Nat → RouteFut RouteResult}
    (unread : state.history.enqueuedAt = none) (unanswered : state.history.enqueued = false)
    (rest : ∀ time after, after.history.enqueuedAt = some time → time ≤ after.history.latest →
      after.history.enqueued = false →
      (custody config route).Respects .enqueue after (next time)) :
    (custody config route).Respects .enqueue state (nowSecs >>= next) := by
  apply respects_perform_enqueue
  intro current spares sound time after answer starts performed
  cases performed
  have remembers : Remembers current.history (noteClock .enqueue time current.history) :=
    remembers_noteClock time fun _ => spares.unread.trans unread
  have later : Later config route current (current.record (noteClock .enqueue time)) :=
    remembers.later id id
  have stillUnanswered := spares.unanswered.trans unanswered
  refine ⟨later, { sound.carried later with enqueued := ?_ }, rfl,
    rest time _ rfl (le_max_right _ _) stillUnanswered⟩
  intro enqueued
  exact absurd (enqueued.symm.trans stillUnanswered) (by decide)

theorem respects_deletePayload_enqueue {next : RouteResult → RouteFut RouteResult}
    (unanswered : state.history.enqueued = false)
    (rest : ∀ answer after, (custody config route).Respects .enqueue after (next answer)) :
    (custody config route).Respects .enqueue state (deletePayload .source >>= next) := by
  apply respects_perform_enqueue
  intro current spares sound failure after answer starts performed
  cases failure with
  | none =>
    cases performed
    refine ⟨later_deletePayload_source, ?_, rfl, rest _ _⟩
    apply sound.deletePayload later_deletePayload_source
    intro enqueued
    rw [spares.unanswered, unanswered] at enqueued
    cases enqueued
  | some =>
    cases performed
    exact ⟨Later.refl current, sound, rfl, rest _ _⟩

theorem respects_enqueueDurableRemoteRoute (unread : state.history.enqueuedAt = none)
    (unanswered : state.history.enqueued = false) :
    (custody config route).Respects .enqueue state (enqueueDurableRemoteRoute config route) := by
  apply respects_now_enqueue unread unanswered
  intro now clocked known read unanswered
  have expires : clocked.ExpiresBy config route
      (route.packet.routeExpiryAt config.messageTtlSeconds now) := ⟨now, known, le_rfl⟩
  dsimp only
  split
  · rename_i passed
    have settled := expires.settled passed read
    apply respects_increaseMessagesDropped
    intro dropped ⟨later, _⟩
    apply respects_return_enqueue
    intro _
    exact .inl (.inl (later.settled settled))
  apply respects_putPayload rfl
  intro answer put ⟨later, spares⟩ payload
  replace expires := expires.later later
  replace unanswered := (spares rfl).unanswered.trans unanswered
  cases answer with
  | error =>
    apply respects_return_enqueue
    intro succeeded
    cases succeeded
  | ok done =>
    have kept : put.Kept config route := .inr (payload rfl)
    apply respects_putOutbox
    · exact expires
    · intro answer written ⟨later, spares⟩ row
      replace unanswered := (spares rfl).unanswered.trans unanswered
      cases answer with
      | error =>
        apply respects_deletePayload_enqueue unanswered
        intro _ after
        apply respects_return_enqueue
        intro succeeded
        cases succeeded
      | ok =>
        have secured : written.Secured config route := by
          rcases (spares rfl).kept kept with taken | payload
          · exact .inl taken
          · exact .inr ⟨(row rfl).1, payload⟩
        refine respects_spawn _ () (fun _ _ => rfl) ?_ ?_
        · intro after later
          exact .dispatch _ ((row rfl).2.later later)
        · intro after ⟨_, spares⟩
          apply respects_return_enqueue
          intro _
          exact (spares rfl).secured secured

end Workers

/-! ## Runs -/

theorem custody_sound (targeted : route.targetClientId.isEmpty = false) :
    (custody config route).Sound where
  launched := by
    intro start state _ launched _
    cases launched with
    | dispatch item known => exact respects_dispatchOutboxItem known
    | scanOutbox => exact respects_processRouteOutbox
    | handler call request known => exact respects_routeFromOtherNode targeted known
    | process item known => exact respects_processInboxItem known
    | scanInbox => exact respects_processRouteInbox
    | cleanup => exact respects_cleanupCompletedInboxItems
  event := by
    intro state event after starts sound _ happened
    have safe : Safe config route state after ∧
        ∀ start ∈ starts, Launched config route after start := by
      cases event with
      | arrive call =>
        rcases Option.map_eq_some_iff.mp happened with ⟨request, sent, same⟩
        cases same
        have safe := sound.setSent call state.calls none (fun _ same => by cases same)
        exact ⟨safe,
          List.forall_mem_singleton.mpr (.handler call request
            ((sound.sent call request sent).later safe.spares.later))⟩
      | restart =>
        cases happened
        exact ⟨sound.unchanged, fun start member => by cases member⟩
      | scanOutbox =>
        cases happened
        exact ⟨sound.unchanged, List.forall_mem_singleton.mpr .scanOutbox⟩
      | scanInbox =>
        cases happened
        exact ⟨sound.unchanged, List.forall_mem_singleton.mpr .scanInbox⟩
      | cleanup =>
        cases happened
        exact ⟨sound.unchanged, List.forall_mem_singleton.mpr .cleanup⟩
    exact ⟨safe.1.sound, fun task _ => safe.1.spares.since task, fun _ _ => trivial, safe.2⟩

def StartsOrdinary (starts : List RouteWorker) : Prop :=
  starts.length ≤ 1 ∧ ∀ start ∈ starts, start.kind ≠ .enqueue

theorem startsOrdinary_nil : StartsOrdinary [] :=
  ⟨Nat.zero_le 1, fun start member => by cases member⟩

theorem startsOrdinary_singleton {start : RouteWorker} (ordinary : start.kind ≠ .enqueue) :
    StartsOrdinary [start] := by
  exact ⟨le_rfl, List.forall_mem_singleton.mpr ordinary⟩

variable {state : RouteState} {starts : List RouteWorker}

theorem startsOrdinary_perform {task : RouteTask} {op : RouteOp} {choice : op.Choice}
    {answer : op.Answer}
    (performed : RouteState.perform config route task state op choice =
      some (after, answer, starts)) : StartsOrdinary starts := by
  cases op with
  | spawnOutboxDispatch | spawnInboxProcessing =>
    cases performed
    exact startsOrdinary_singleton (fun same => by cases same)
  | awaitResponse =>
    cases choice with
    | some =>
      cases performed
      exact startsOrdinary_nil
    | none =>
      rcases Option.map_eq_some_iff.mp performed with ⟨_, _, same⟩
      cases same
      exact startsOrdinary_nil
  | _ =>
    cases performed
    exact startsOrdinary_nil

theorem startsOrdinary_environment {event : RouteEvent}
    (happened : RouteState.environment config route state event = some (after, starts)) :
    StartsOrdinary starts := by
  cases event with
  | arrive =>
    rcases Option.map_eq_some_iff.mp happened with ⟨_, _, same⟩
    cases same
    exact startsOrdinary_singleton (fun same => by cases same)
  | restart =>
    cases happened
    exact startsOrdinary_nil
  | _ =>
    cases happened
    exact startsOrdinary_singleton (fun same => by cases same)

/-- Nothing but the first worker enqueues the route, so every step is allowed. -/
theorem custody_allows {pool : RoutePool} (kept : (custody config route).Kept pool)
    (input : PoolInput RouteOp.Choice RouteEvent) : (custody config route).Allows pool input where
  permits := fun _ _ _ _ _ _ _ => trivial
  admits := fun _ _ => trivial
  together := by
    have fits : ∀ (starts : List RouteWorker), StartsOrdinary starts →
        ∀ (worker : RouteWorker), ∀ start ∈ starts,
        ¬ (worker.kind = .enqueue ∧ start.kind = .enqueue) ∧
          ¬ (start.kind = .enqueue ∧ worker.kind = .enqueue) := by
      intro starts ordinary worker start member
      have other := ordinary.2 start member
      exact ⟨fun both => other both.2, fun both => other both.1⟩
    intro next stepped
    cases input with
    | poll =>
      rcases Pool.step_poll stepped with ⟨task, _, resume, shared, answer, starts, present,
        performed, rfl⟩
      have ordinary := startsOrdinary_perform performed
      have advanced := kept.together.advance shared (some ⟨task, resume answer⟩) present (by
        intro new same
        cases same
        rfl)
      exact advanced.startAll ordinary.1 fun _ worker _ => fits starts ordinary worker
    | finish =>
      rcases Pool.step_finish stepped with ⟨_, _, present, rfl⟩
      exact kept.together.advance _ none present fun new same => by cases same
    | environment event =>
      rcases Pool.step_environment stepped with ⟨shared, starts, happened, rfl⟩
      have ordinary := startsOrdinary_environment happened
      have interrupted := kept.together.interrupt shared event.survives
      exact interrupted.startAll ordinary.1 fun _ worker _ => fits starts ordinary worker

theorem custody_initial (config : RouteRetryConfig) (route : DurableRoute) :
    (custody config route).Kept (RoutePool.initial config route) :=
  Discipline.kept_start sound_new (fun _ => trivial) (respects_enqueueDurableRemoteRoute rfl rfl)

/-- A route to a client with a name stays in custody along every interleaving of its
workers, with every loss of requests and responses, failure of stores and restart. -/
theorem routes_stay_in_custody (config : RouteRetryConfig) (route : DurableRoute)
    (targeted : route.targetClientId.isEmpty = false)
    (inputs : List (PoolInput RouteOp.Choice RouteEvent)) :
    Throughout (Pool.step (routing config route))
      (fun pool => pool.shared.InCustody config route) (RoutePool.initial config route)
      inputs := by
  intro visited _ reached runs
  have kept : (custody config route).Kept reached := by
    refine run_invariant ?_ (custody_initial config route) runs
    intro pool input next kept stepped
    exact (custody_sound targeted).step kept (custody_allows kept input) stepped
  exact kept.holds.inCustody

/-! ## A run in which nothing fails -/

def smoothly (time : Nat) : (op : RouteOp) → op.Choice
  | .now => time
  | .increaseMessagesDropped => ()
  | .putPayload _ _ | .getPayload _ | .deletePayload _ | .getOutbox | .putOutbox _
  | .deleteOutbox => none
  | .spawnOutboxDispatch _ => ()
  | .getNode => true
  | .sendRequest _ => ()
  | .awaitResponse _ => none
  | .publishToLocalSubscribers _ => ⟨false, .ok ()⟩
  | .getInbox => none
  | .putInbox _ => none
  | .deleteInbox => none
  | .spawnInboxProcessing _ => ()
  | .acceptRoutedPublish _ => ⟨true, .ok ()⟩

def polls (time id : Nat) (count : Nat) : List (PoolInput RouteOp.Choice RouteEvent) :=
  List.replicate count (.poll id (smoothly time))

def atLeastOnce : Packet :=
  .publish {
    protocolVersion := .v5_0
    topicName := "topic"
    payload := []
    qos := 1
    retain := false
    dup := false
    packetIdentifier := some 1
    messageExpiryInterval := none
    expiresAtUnixSecs := none }

def routeTo (clientId : String) : DurableRoute where
  routeId := "route"
  destNodeId := 2
  targetClientId := clientId
  packet := atLeastOnce

def dispatched (handled : Nat) : List (PoolInput RouteOp.Choice RouteEvent) :=
  polls 10 0 4 ++ [.finish 0] ++ polls 11 1 4 ++ [.environment (.arrive 0)] ++
    polls 12 2 handled ++ [.finish 2] ++ polls 13 1 2

theorem routes_stay_in_custody_dispatched :
    (routeTo "client").targetClientId.isEmpty = false ∧
      Throughout (Pool.step (routing {} (routeTo "client")))
        (fun pool => pool.shared.InCustody {} (routeTo "client"))
        (RoutePool.initial {} (routeTo "client")) (dispatched 6) :=
  ⟨by decide, routes_stay_in_custody {} (routeTo "client") (by decide) (dispatched 6)⟩

def rowsAfter (route : DurableRoute) (inputs : List (PoolInput RouteOp.Choice RouteEvent)) :
    Option (Option RouteOutboxItem × Option RouteInboxItem × RouteHistory) :=
  (run (Pool.step (routing {} route)) (RoutePool.initial {} route) inputs).map fun pool =>
    (pool.shared.outbox, pool.shared.inbox, pool.shared.history)

example : (rowsAfter (routeTo "client") (dispatched 6)).map (fun rows => rows.2.1.isSome) =
    some true := by
  decide +kernel

/-- The client with the empty identifier: the handler stores nothing and reports success,
and the source deletes the row. -/
theorem untargeted_route_dropped :
    ∃ pool, run (Pool.step (routing {} (routeTo ""))) (RoutePool.initial {} (routeTo ""))
        (dispatched 1) = some pool ∧
      pool.shared.history.enqueued = true ∧ pool.shared.history.accepted = false ∧
      pool.shared.outbox = none ∧ pool.shared.inbox = none ∧
      ¬ pool.shared.InCustody {} (routeTo "") := by
  have rows : rowsAfter (routeTo "") (dispatched 1) = some (none, none, {
      enqueuedAt := some 10
      enqueued := true
      latest := 11
      limitReached := false
      accepted := false
      registrations := 0
      completed := false
      removed := false }) := by
    decide +kernel
  rcases Option.map_eq_some_iff.mp rows with ⟨pool, runs, observed⟩
  simp only [Prod.mk.injEq] at observed
  rcases observed with ⟨outbox, inbox, history⟩
  refine ⟨pool, runs, by rw [history], by rw [history], outbox, inbox, ?_⟩
  intro custody
  have unsettled : ¬ pool.shared.Settled {} (routeTo "") := by
    rw [Settled, Expired, history]
    rintro (accepted | ⟨_, known, passed⟩ | limit)
    · cases accepted
    · cases known
      exact absurd passed (by decide)
    · cases limit
  rcases custody (by rw [history]) unsettled with ⟨⟨item, present⟩, _⟩ | ⟨⟨item, present, _⟩, _⟩
  · rw [outbox] at present
    cases present
  · rw [inbox] at present
    cases present

end YedMQ.Router
