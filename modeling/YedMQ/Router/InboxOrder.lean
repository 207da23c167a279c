import YedMQ.Router.CustodyRun

/-! # One delivery for each route

The destination finds out that it has a route already by a read that is followed by a
write, and a worker delivers the message from a copy of the row and writes the row
afterwards. In between others can do the same. This module says under which conditions a
route is delivered once all the same: handlers of the route, and workers on its inbox row,
do not overlap; a delivery that reports an error has not registered the message; the
completion is stored after a delivery that has; and no request is accepted after the
completed row was removed.
-/

namespace YedMQ.Router

open Semantics Future RouteState

variable {config : RouteRetryConfig} {route : DurableRoute}

def RouteTask.isHandler : RouteTask → Bool
  | handler _ => true
  | _ => false

def RouteTask.isProcess : RouteTask → Bool
  | process => true
  | _ => false

def RouteOp.spawnsProcess : RouteOp → Bool
  | spawnInboxProcessing _ => true
  | _ => false

namespace RouteState

variable {state before after : RouteState}

def Pending (state : RouteState) : Prop :=
  ∃ item, state.inbox = some item ∧ item.status = .pending

instance (state : RouteState) : Decidable state.Pending :=
  decidable_of_iff (state.inbox.any (fun item => item.status = .pending) = true) (by
    simp [Pending, Option.any_eq_true])

/-- The message came to the session once at most, a completed row is not pending again, and
a pending row has its payload. -/
structure DeliveredOnce (route : DurableRoute) (state : RouteState) : Prop where
  once : state.history.registrations ≤ 1
  final : state.history.completed = true → ¬ state.Pending
  payload : state.Pending → state.payloads .destination = some route.packet

/-! ## The invariant -/

structure Ordered (state : RouteState) : Prop where
  once : state.history.registrations ≤ 1
  pending : state.Pending → (∃ packet, state.payloads .destination = some packet) ∧
    state.history.completed = false ∧ state.history.removed = false
  completed : ∀ item, state.inbox = some item → item.status = .completed →
    state.history.completed = true
  absent : state.inbox = none → state.history.removed = false →
    state.history.registrations = 0 ∧ state.history.completed = false
  removed : state.history.removed = true → state.history.completed = true

theorem ordered_new : (new : RouteState).Ordered where
  once := Nat.zero_le 1
  pending := by
    rintro ⟨item, present, _⟩
    cases present
  completed := by
    intro item present
    cases present
  absent := fun _ _ => ⟨rfl, rfl⟩
  removed := by
    intro removed
    cases removed

theorem Ordered.not_pending (ordered : state.Ordered)
    (completed : state.history.completed = true) : ¬ state.Pending := by
  intro pending
  rw [(ordered.pending pending).2.1] at completed
  cases completed

def Quiet (state : RouteState) : Prop :=
  state.Pending → state.history.registrations = 0

instance (state : RouteState) : Decidable state.Quiet :=
  inferInstanceAs (Decidable (state.Pending → state.history.registrations = 0))

def Untouched (state : RouteState) : Prop :=
  state.inbox = none ∧ state.history.removed = false

theorem Ordered.not_untouched (ordered : state.Ordered)
    (completed : state.history.completed = true) : ¬ state.Untouched := by
  intro untouched
  rw [(ordered.absent untouched.1 untouched.2).2] at completed
  cases completed

/-- What the worker on the row relies on, what a handler relies on, and what both and the
cleanup do. -/
structure InboxSince (task : RouteTask) (before after : RouteState) : Prop where
  completed : before.history.completed = true → after.history.completed = true
  process : task = .process → after.history.registrations = before.history.registrations ∧
    (before.Pending → after.inbox = before.inbox) ∧ (before.Quiet → after.Quiet)
  handler : task.isHandler = true → before.Untouched →
    after.Untouched ∧ after.payloads .destination = before.payloads .destination

theorem InboxSince.refl (task : RouteTask) (state : RouteState) : InboxSince task state state where
  completed := id
  process := fun _ => ⟨rfl, fun _ => rfl, id⟩
  handler := fun _ untouched => ⟨untouched, rfl⟩

theorem InboxSince.trans {task : RouteTask} {middle : RouteState}
    (first : InboxSince task before middle) (second : InboxSince task middle after) :
    InboxSince task before after where
  completed := fun completed => second.completed (first.completed completed)
  process := by
    intro processes
    rcases first.process processes with ⟨count, row, quiet⟩
    rcases second.process processes with ⟨nextCount, nextRow, nextQuiet⟩
    refine ⟨nextCount.trans count, ?_, fun before => nextQuiet (quiet before)⟩
    intro pending
    have same := row pending
    have still : middle.Pending := by
      rcases pending with ⟨item, present, status⟩
      exact ⟨item, same.trans present, status⟩
    exact (nextRow still).trans same
  handler := by
    intro handles untouched
    rcases first.handler handles untouched with ⟨middleUntouched, payload⟩
    rcases second.handler handles middleUntouched with ⟨afterUntouched, nextPayload⟩
    exact ⟨afterUntouched, nextPayload.trans payload⟩

/-- Nothing changes at the destination. -/
structure SameInbox (before after : RouteState) : Prop where
  inbox : after.inbox = before.inbox
  payload : after.payloads .destination = before.payloads .destination
  registrations : after.history.registrations = before.history.registrations
  completed : after.history.completed = before.history.completed
  removed : after.history.removed = before.history.removed

theorem SameInbox.refl (state : RouteState) : SameInbox state state :=
  ⟨rfl, rfl, rfl, rfl, rfl⟩

variable (same : SameInbox before after)

include same

theorem SameInbox.pending : after.Pending ↔ before.Pending := by
  rw [Pending, Pending, same.inbox]

theorem SameInbox.quiet (quiet : before.Quiet) :
    after.Quiet := by
  intro pending
  rw [same.registrations]
  exact quiet (same.pending.mp pending)

theorem SameInbox.ordered (ordered : before.Ordered) : after.Ordered where
  once := by
    rw [same.registrations]
    exact ordered.once
  pending := by
    intro pending
    rw [same.payload, same.completed, same.removed]
    exact ordered.pending (same.pending.mp pending)
  completed := by
    intro item present status
    rw [same.inbox] at present
    rw [same.completed]
    exact ordered.completed item present status
  absent := by
    intro absent kept
    rw [same.inbox] at absent
    rw [same.removed] at kept
    rw [same.registrations, same.completed]
    exact ordered.absent absent kept
  removed := by
    intro removed
    rw [same.removed] at removed
    rw [same.completed]
    exact ordered.removed removed

theorem SameInbox.since (task : RouteTask) : InboxSince task before after where
  completed := fun completed => same.completed.trans completed
  process := fun _ => ⟨same.registrations, fun _ => same.inbox, same.quiet⟩
  handler := fun _ untouched => ⟨⟨same.inbox.trans untouched.1, same.removed.trans untouched.2⟩,
    same.payload⟩

end RouteState

open RouteState

/-! ## The discipline -/

def Reckoned (task : RouteTask) (state : RouteState) : (op : RouteOp) → op.Choice → Prop
  | .getInbox, _ => task.isHandler = true → state.history.removed = false
  | .spawnInboxProcessing item, _ => state.inbox = some item
  | .acceptRoutedPublish _, delivery => delivery.registered = true → delivery.result.isOk = true
  | .putInbox _, failure => 0 < state.history.registrations → failure.isNone = true
  | _, _ => True

instance Reckoned.decidable (task : RouteTask) (state : RouteState) (op : RouteOp)
    (choice : op.Choice) : Decidable (Reckoned task state op choice) := by
  unfold Reckoned
  split <;> infer_instance

/-- The workers that are started at the destination, and what is known about their copies. -/
inductive InboxLaunched (config : RouteRetryConfig) (route : DurableRoute) (state : RouteState) :
    RouteWorker → Prop where
  | dispatch (item : RouteOutboxItem) :
      InboxLaunched config route state ⟨.dispatch, dispatchOutboxItem config route item⟩
  | scanOutbox : InboxLaunched config route state ⟨.dispatch, processRouteOutbox config route⟩
  | handler (call : Nat) (request : RoutePacketRequest) :
      InboxLaunched config route state ⟨.handler call, routeFromOtherNode config route request⟩
  | process (item : RouteInboxItem) (current : state.inbox = some item) :
      InboxLaunched config route state ⟨.process, processInboxItem config route item⟩
  | scanInbox : InboxLaunched config route state ⟨.process, processRouteInbox config route⟩
  | cleanup : InboxLaunched config route state ⟨.cleanup, cleanupCompletedInboxItems config⟩

/-- Handlers run one at a time, and so do workers on the row. While none of these runs, a
pending message has not been registered. -/
def inboxOrder (config : RouteRetryConfig) (route : DurableRoute) :
    Discipline (routing config route) where
  Holds := Ordered
  Relies := InboxSince
  Rests := fun task state => task = .process → state.Quiet
  Compatible := fun one other => ¬ (one.isHandler = true ∧ other.isHandler = true) ∧
    ¬ (one = .process ∧ other = .process)
  Permits := Reckoned
  Admits := fun state event => event = .restart .destination → state.Quiet
  Launches := fun start state => InboxLaunched config route state start
  unchanged := InboxSince.refl
  trans := fun _ _ _ _ first second => first.trans second

section Rules

variable {task : RouteTask} {state : RouteState}

variable {after : RouteState}

theorem RouteState.SameInbox.keeps {before : RouteState} (same : SameInbox before after)
    (ordered : before.Ordered) (task : RouteTask) :
    (inboxOrder config route).Keeps task before after where
  holds := same.ordered ordered
  others := fun other _ => same.since other
  rests := fun _ _ rests processes => same.quiet (rests processes)

theorem noLaunch : ∀ start ∈ ([] : List RouteWorker), InboxLaunched config route state start := by
  intro start member
  cases member

def Elsewhere : RouteOp → Prop
  | .putPayload node _ => node = .source
  | .deletePayload node => node = .source
  | .putInbox _ | .deleteInbox | .spawnInboxProcessing _ | .acceptRoutedPublish _
  | .publishToLocalSubscribers _ => False
  | _ => True

theorem sameInbox_storing {state changed : RouteState} {failure : Option RouterActorError}
    (same : SameInbox state changed) : SameInbox state (storing failure state changed).1 := by
  cases failure with
  | none => exact same
  | some => exact SameInbox.refl state

theorem sameInbox_perform {op : RouteOp} (elsewhere : Elsewhere op) {choice : op.Choice}
    {answer : op.Answer} {starts : List RouteWorker}
    (performed : perform config route task state op choice = some (after, answer, starts)) :
    SameInbox state after ∧ ∀ start ∈ starts, InboxLaunched config route after start := by
  cases op with
  | putPayload node | deletePayload node =>
    cases performed
    refine ⟨sameInbox_storing ?_, noLaunch⟩
    rw [show node = .source from elsewhere]
    exact ⟨rfl, payloads_setPayload_of_ne (by decide) _, rfl, rfl, rfl⟩
  | putOutbox | deleteOutbox =>
    cases performed
    exact ⟨sameInbox_storing ⟨rfl, rfl, rfl, rfl, rfl⟩, noLaunch⟩
  | spawnOutboxDispatch item =>
    cases performed
    exact ⟨⟨rfl, rfl, rfl, rfl, rfl⟩, List.forall_mem_singleton.mpr (.dispatch item)⟩
  | awaitResponse =>
    cases choice with
    | some =>
      cases performed
      exact ⟨⟨rfl, rfl, rfl, rfl, rfl⟩, noLaunch⟩
    | none =>
      rcases Option.map_eq_some_iff.mp performed with ⟨_, _, same⟩
      cases same
      exact ⟨⟨rfl, rfl, rfl, rfl, rfl⟩, noLaunch⟩
  | putInbox | deleteInbox
  | spawnInboxProcessing | acceptRoutedPublish | publishToLocalSubscribers => cases elsewhere
  | _ =>
    cases performed
    exact ⟨⟨rfl, rfl, rfl, rfl, rfl⟩, noLaunch⟩

theorem sameInbox_finish (task : RouteTask) (result : RouteResult) (state : RouteState) :
    SameInbox state (finish task result state) := by
  cases task <;> exact ⟨rfl, rfl, rfl, rfl, rfl⟩

/-- A worker of the source does not touch the destination. -/
theorem respects_of_only_elsewhere (ordinary : task ≠ .process) {future : RouteFut RouteResult}
    (only : future.Only Elsewhere) :
    (inboxOrder config route).Respects task state future := by
  induction future generalizing state with
  | done result =>
    intro current _ ordered
    refine ⟨(sameInbox_finish task result current).keeps ordered task, ?_⟩
    intro processes
    exact absurd processes ordinary
  | await op resume induction =>
    intro current _ ordered choice after answer starts _ performed
    rcases sameInbox_perform only.1 performed with ⟨same, launched⟩
    exact ⟨same.keeps ordered task, launched, induction answer (only.2 answer)⟩

/-! ### Rules for the destination -/

/-- An operation elsewhere keeps what a worker knows. -/
theorem respects_elsewhere {op : RouteOp} {next : op.Answer → RouteFut RouteResult}
    (elsewhere : Elsewhere op)
    (rest : ∀ answer after, InboxSince task state after → after.Ordered →
      (inboxOrder config route).Respects task after (next answer)) :
    (inboxOrder config route).Respects task state (Future.perform op >>= next) := by
  intro current since ordered choice after answer starts _ performed
  rcases sameInbox_perform elsewhere performed with ⟨same, launched⟩
  refine ⟨same.keeps ordered task, launched, ?_⟩
  exact rest answer after (since.trans (same.since task)) (same.ordered ordered)

theorem respects_return_inbox {result : RouteResult} (quiet : task = .process → state.Quiet) :
    (inboxOrder config route).Respects task state (pure result) := by
  intro current since ordered
  have same := sameInbox_finish task result current
  refine ⟨same.keeps ordered task, ?_⟩
  intro processes
  exact same.quiet ((since.process processes).2.2 (quiet processes))

end Rules

/-! ## Handlers -/

section Handlers

variable {call : Nat} {state : RouteState}

variable {after : RouteState}

/-- A handler that runs alone changes nothing that the others rely on, as long as there is no
row. -/
theorem keeps_of_untouched {before : RouteState} (untouched : before.Untouched)
    (ordered : after.Ordered) (completed : after.history.completed = before.history.completed)
    (registrations : after.history.registrations = before.history.registrations)
    (quiet : after.Quiet) :
    (inboxOrder config route).Keeps (.handler call) before after where
  holds := ordered
  others := by
    intro other compatible
    refine ⟨fun done => completed.trans done, ?_, ?_⟩
    · intro _
      refine ⟨registrations, ?_, fun _ => quiet⟩
      rintro ⟨_, present, _⟩
      rw [untouched.1] at present
      cases present
    · intro handles
      exact absurd ⟨rfl, handles⟩ compatible.1
  rests := fun _ _ _ _ => quiet

theorem RouteState.Ordered.quiet_of_absent (ordered : state.Ordered) (untouched : state.Untouched)
    (registrations : after.history.registrations = state.history.registrations) :
    after.Quiet := by
  intro _
  rw [registrations]
  exact (ordered.absent untouched.1 untouched.2).1

theorem respects_getInbox_handler
    {next : Except RouterActorError (Option RouteInboxItem) → RouteFut RouteResult}
    (rest : ∀ answer after, (answer = .ok none → after.Untouched) →
      (inboxOrder config route).Respects (.handler call) after (next answer)) :
    (inboxOrder config route).Respects (.handler call) state (getInbox >>= next) := by
  intro current _ ordered failure after answer starts kept performed
  cases performed
  refine ⟨(SameInbox.refl current).keeps ordered _, noLaunch, rest _ current ?_⟩
  intro answered
  exact ⟨value_of_reading answered, kept rfl⟩

variable {next : RouteResult → RouteFut RouteResult}

theorem respects_putPayload_handler {packet : Packet} (untouched : state.Untouched)
    (rest : ∀ answer after, after.Untouched →
      (answer = .ok () → after.payloads .destination = some packet) →
      (inboxOrder config route).Respects (.handler call) after (next answer)) :
    (inboxOrder config route).Respects (.handler call) state
      (putPayload .destination packet >>= next) := by
  intro current since ordered failure after answer starts _ performed
  have still := (since.handler rfl untouched).1
  cases failure with
  | some error =>
    cases performed
    refine ⟨(SameInbox.refl current).keeps ordered _, noLaunch, ?_⟩
    apply rest (.error error) current still
    intro answered
    cases answered
  | none =>
    cases performed
    have absent : ¬ (current.setPayload .destination (some packet)).Pending := by
      rintro ⟨item, present, _⟩
      have none : current.inbox = some item := present
      rw [still.1] at none
      cases none
    have kept : (current.setPayload .destination (some packet)).Ordered :=
      { ordered with pending := fun pending => absurd pending absent }
    refine ⟨keeps_of_untouched still kept rfl rfl (ordered.quiet_of_absent still rfl), noLaunch, ?_⟩
    have stillAfter : (current.setPayload .destination (some packet)).Untouched := still
    apply rest (.ok ()) _ stillAfter
    intro _
    exact payloads_setPayload_self _ _

variable {item : RouteInboxItem}

/-- A pending row may be stored while none has been completed. -/
theorem RouteState.Ordered.putPending (ordered : state.Ordered)
    (payload : ∃ packet, state.payloads .destination = some packet)
    (incomplete : state.history.completed = false) (there : state.history.removed = false)
    (pending : item.status = .pending) : (state.withInbox config item).Ordered ∧
      (state.withInbox config item).history.completed = state.history.completed := by
  have completed : (state.withInbox config item).history.completed = state.history.completed := by
    simp [withInbox, record, noteStatus, noteAttempts, setInbox, pending]
  refine ⟨⟨ordered.once, ?_, ?_, ?_, ?_⟩, completed⟩
  · intro _
    exact ⟨payload, completed.trans incomplete, there⟩
  · intro stored present status
    cases present
    rw [pending] at status
    cases status
  · intro absent
    cases absent
  · intro removed
    exact absurd (removed.symm.trans there) (by decide)

theorem respects_putInbox_handler {packet : Packet} (untouched : state.Untouched)
    (payload : state.payloads .destination = some packet) (pending : item.status = .pending)
    (rest : ∀ answer after, (inboxOrder config route).Respects (.handler call) after
      (next answer)) :
    (inboxOrder config route).Respects (.handler call) state (putInbox item >>= next) := by
  intro current since ordered failure after answer starts _ performed
  rcases since.handler rfl untouched with ⟨still, samePayload⟩
  have fresh := ordered.absent still.1 still.2
  cases failure with
  | some =>
    cases performed
    exact ⟨(SameInbox.refl current).keeps ordered _, noLaunch, rest _ _⟩
  | none =>
    cases performed
    rcases ordered.putPending ⟨packet, samePayload.trans payload⟩ fresh.2 still.2 pending with
      ⟨kept, completed⟩
    exact ⟨keeps_of_untouched still kept completed rfl (ordered.quiet_of_absent still rfl),
      noLaunch, rest _ _⟩

theorem respects_spawnInboxProcessing {next : Unit → RouteFut RouteResult}
    (rest : ∀ after, (inboxOrder config route).Respects (.handler call) after (next ())) :
    (inboxOrder config route).Respects (.handler call) state
      (spawnInboxProcessing item >>= next) := by
  intro current _ ordered choice after answer starts stored performed
  cases performed
  refine ⟨(SameInbox.refl current).keeps ordered _, ?_, rest current⟩
  intro start member
  rw [List.mem_singleton.mp member]
  exact .process item stored

theorem respects_return_handler {result : RouteResult} :
    (inboxOrder config route).Respects (.handler call) state (pure result) := by
  apply respects_return_inbox
  intro processes
  cases processes

theorem ordered_acceptRouteFromOtherNode {request : RoutePacketRequest} :
    (inboxOrder config route).Respects (.handler call) state
      (acceptRouteFromOtherNode config request) := by
  apply respects_elsewhere
  · trivial
  intro first clocked _ _
  split
  · apply respects_elsewhere
    · trivial
    intro _ after _ _
    exact respects_return_handler
  apply respects_getInbox_handler
  intro answer got untouched
  rcases answer with error | _ | item
  · exact respects_return_handler
  · apply respects_putPayload_handler (untouched rfl)
    intro answer put untouched payload
    cases answer with
    | error => exact respects_return_handler
    | ok done =>
      apply respects_elsewhere
      · trivial
      intro now clocked since _
      rcases since.handler rfl untouched with ⟨still, same⟩
      apply respects_putInbox_handler still (same.trans (payload rfl)) rfl
      intro answer written
      cases answer with
      | error => exact respects_return_handler
      | ok =>
        apply respects_spawnInboxProcessing
        intro after
        exact respects_return_handler
  · exact respects_return_handler

end Handlers

/-! ## The worker on the row -/

namespace RouteState

/-- The worker's copy is the row, and the message has not been registered. -/
structure Own (state : RouteState) (item : RouteInboxItem) : Prop where
  current : state.inbox = some item
  pending : item.status = .pending
  unregistered : state.history.registrations = 0

variable {state : RouteState} {item : RouteInboxItem}

theorem Own.isPending (own : state.Own item) :
    state.Pending :=
  ⟨item, own.current, own.pending⟩

theorem Own.quiet (own : state.Own item) :
    state.Quiet :=
  fun _ => own.unregistered

theorem Own.since {before after : RouteState} (own : before.Own item)
    (since : InboxSince .process before after) : after.Own item := by
  rcases since.process rfl with ⟨count, row, _⟩
  exact ⟨(row own.isPending).trans own.current, own.pending, count.trans own.unregistered⟩

end RouteState

section Process

variable {state : RouteState} {item : RouteInboxItem}

/-- While there is a row, handlers rely on nothing. -/
theorem keeps_of_present {before after : RouteState} (present : ¬ before.Untouched)
    (ordered : after.Ordered)
    (completed : before.history.completed = true → after.history.completed = true) :
    (inboxOrder config route).Keeps .process before after where
  holds := ordered
  others := by
    intro other compatible
    refine ⟨completed, ?_, ?_⟩
    · intro processes
      exact absurd ⟨rfl, processes⟩ compatible.2
    · intro _ untouched
      exact absurd untouched present
  rests := by
    intro other different _ processes
    exact absurd processes different

theorem RouteState.Pending.not_untouched (pending : state.Pending) : ¬ state.Untouched := by
  intro untouched
  rcases pending with ⟨_, present, _⟩
  rw [untouched.1] at present
  cases present

theorem respects_return_process {result : RouteResult} (quiet : state.Quiet) :
    (inboxOrder config route).Respects .process state (pure result) :=
  respects_return_inbox fun _ => quiet

variable {next : RouteResult → RouteFut RouteResult}

/-- The row is completed, if the store does not fail, and never pending again. -/
theorem respects_putInbox_completed {now : Nat} (current : state.inbox = some item)
    (pending : item.status = .pending)
    (failed : ∀ error after, after.Own item →
      (inboxOrder config route).Respects .process after (next (.error error)))
    (stored : ∀ after, after.Ordered → after.history.completed = true →
      (inboxOrder config route).Respects .process after (next (.ok ()))) :
    (inboxOrder config route).Respects .process state
      (putInbox { item with status := .completed, completedAt := some now } >>= next) := by
  intro latest since ordered failure after answer starts reliable performed
  have isPending : state.Pending := ⟨item, current, pending⟩
  have row : latest.inbox = some item := ((since.process rfl).2.1 isPending).trans current
  have still : latest.Pending := ⟨item, row, pending⟩
  cases failure with
  | some error =>
    cases performed
    have unregistered : latest.history.registrations = 0 := by
      by_contra registered
      have stored := reliable (Nat.pos_of_ne_zero registered)
      cases stored
    exact ⟨(SameInbox.refl latest).keeps ordered _, noLaunch,
      failed error latest ⟨row, pending, unregistered⟩⟩
  | none =>
    cases performed
    have completed : (latest.withInbox config
        { item with status := .completed, completedAt := some now }).history.completed = true := by
      simp [withInbox, record, noteStatus]
    have kept : (latest.withInbox config
        { item with status := .completed, completedAt := some now }).Ordered := by
      refine ⟨ordered.once, ?_, fun _ _ _ => completed, ?_, fun _ => completed⟩
      · rintro ⟨stored, present, status⟩
        cases present
        cases status
      · intro absent
        cases absent
    exact ⟨keeps_of_present still.not_untouched kept fun _ => completed, noLaunch,
      stored _ kept completed⟩

theorem respects_deletePayload_completed (completed : state.history.completed = true)
    (rest : ∀ answer after, after.Quiet →
      (inboxOrder config route).Respects .process after (next answer)) :
    (inboxOrder config route).Respects .process state (deletePayload .destination >>= next) := by
  intro current since ordered failure after answer starts _ performed
  have still := since.completed completed
  have quiet : current.Quiet := fun pending => absurd pending (ordered.not_pending still)
  cases failure with
  | some =>
    cases performed
    exact ⟨(SameInbox.refl current).keeps ordered _, noLaunch, rest _ _ quiet⟩
  | none =>
    cases performed
    have kept : (current.setPayload .destination none).Ordered :=
      { ordered with pending := fun pending => absurd pending (ordered.not_pending still) }
    exact ⟨keeps_of_present (ordered.not_untouched still) kept id, noLaunch, rest _ _ quiet⟩

theorem ordered_completeInboxItem {now : Nat} (current : state.inbox = some item)
    (pending : item.status = .pending) :
    (inboxOrder config route).Respects .process state (completeInboxItem now item) := by
  apply respects_putInbox_completed current pending
  · intro error after own
    exact respects_return_process own.quiet
  · intro written _ completed
    apply respects_deletePayload_completed completed
    intro _ after quiet
    exact respects_return_process quiet

/-- The message is registered once at most by a delivery, and not at all by one that reports
an error. -/
theorem respects_delivery {packet : Packet} (own : state.Own item)
    (failed : ∀ error after, after.Own item →
      (inboxOrder config route).Respects .process after (next (.error error)))
    (accepted : ∀ after, after.inbox = some item →
      (inboxOrder config route).Respects .process after (next (.ok ()))) :
    (inboxOrder config route).Respects .process state
      (routeToLocalSessionDurable packet >>= next) := by
  intro current since ordered delivery after answer starts truthful performed
  have still := own.since since
  cases performed
  have count : (current.record (noteDelivery delivery)).history.registrations =
      delivery.registered.toNat := by
    simp [record, noteDelivery, noteRegistration, still.unregistered]
  have kept : (current.record (noteDelivery delivery)).Ordered := by
    refine { ordered with once := ?_, absent := ?_ }
    · rw [count]
      exact Bool.toNat_le delivery.registered
    · intro absent
      have none : current.inbox = none := absent
      rw [still.current] at none
      cases none
  refine ⟨keeps_of_present still.isPending.not_untouched kept id, noLaunch, ?_⟩
  cases result : delivery.result with
  | error error =>
    apply failed error
    refine ⟨still.current, still.pending, ?_⟩
    rw [count]
    cases registered : delivery.registered with
    | false => rfl
    | true =>
      have reported := truthful registered
      rw [result] at reported
      cases reported
  | ok => exact accepted _ still.current

/-- The row is stored again for the next attempt. -/
theorem respects_putInbox_again {again : RouteInboxItem} (own : state.Own item)
    (pending : again.status = .pending)
    (rest : ∀ answer after, after.Quiet →
      (inboxOrder config route).Respects .process after (next answer)) :
    (inboxOrder config route).Respects .process state (putInbox again >>= next) := by
  intro current since ordered failure after answer starts _ performed
  have still := own.since since
  cases failure with
  | some =>
    cases performed
    exact ⟨(SameInbox.refl current).keeps ordered _, noLaunch, rest _ _ still.quiet⟩
  | none =>
    cases performed
    have before := ordered.pending still.isPending
    rcases ordered.putPending before.1 before.2.1 before.2.2 pending with ⟨kept, completed⟩
    exact ⟨keeps_of_present still.isPending.not_untouched kept completed.trans, noLaunch,
      rest _ _ fun _ => still.unregistered⟩

theorem ordered_processInboxItem (quiet : state.Quiet) (current : state.inbox = some item) :
    (inboxOrder config route).Respects .process state (processInboxItem config route item) := by
  rw [processInboxItem]
  split
  · exact respects_return_process quiet
  rename_i incomplete
  have pending : item.status = .pending := by
    cases status : item.status with
    | pending => rfl
    | completed => exact absurd status incomplete
  have own : state.Own item := ⟨current, pending, quiet ⟨item, current, pending⟩⟩
  apply respects_elsewhere
  · trivial
  intro now clocked since _
  replace own := own.since since
  split
  · apply respects_elsewhere
    · trivial
    intro _ dropped since _
    replace own := own.since since
    exact ordered_completeInboxItem own.current own.pending
  split
  · exact respects_return_process own.quiet
  apply respects_elsewhere
  · trivial
  intro answer got since _
  replace own := own.since since
  rcases answer with error | _ | packet
  · exact respects_return_process own.quiet
  · exact respects_return_process own.quiet
  · dsimp only
    split
    · apply respects_elsewhere
      · trivial
      intro _ dropped since _
      replace own := own.since since
      exact ordered_completeInboxItem own.current own.pending
    · apply respects_delivery own
      · intro error after own
        apply respects_putInbox_again own
        · exact own.pending
        · intro answer written quiet
          cases answer <;> exact respects_return_process quiet
      · intro after current
        exact ordered_completeInboxItem current pending

theorem ordered_processRouteInbox (quiet : state.Quiet) :
    (inboxOrder config route).Respects .process state (processRouteInbox config route) := by
  intro current since ordered failure after answer starts _ performed
  cases performed
  have stillQuiet := (since.process rfl).2.2 quiet
  refine ⟨(SameInbox.refl current).keeps ordered _, noLaunch, ?_⟩
  cases failure with
  | some => exact respects_return_process stillQuiet
  | none =>
    cases present : current.inbox with
    | none => exact respects_return_process stillQuiet
    | some => exact ordered_processInboxItem stillQuiet present

end Process

/-! ## The cleanup and the source -/

section Others

variable {state : RouteState}

theorem respects_return_other {task : RouteTask} {result : RouteResult} (other : task ≠ .process) :
    (inboxOrder config route).Respects task state (pure result) :=
  respects_return_inbox fun processes => absurd processes other

theorem respects_deleteInbox_completed {next : RouteResult → RouteFut RouteResult}
    (completed : state.history.completed = true)
    (rest : ∀ answer after, (inboxOrder config route).Respects .cleanup after (next answer)) :
    (inboxOrder config route).Respects .cleanup state (deleteInbox >>= next) := by
  intro current since ordered failure after answer starts _ performed
  have still := since.completed completed
  cases failure with
  | some =>
    cases performed
    exact ⟨(SameInbox.refl current).keeps ordered _, noLaunch, rest _ _⟩
  | none =>
    cases performed
    have absent : ¬ ((current.setInbox none).record noteRemoval).Pending := by
      rintro ⟨item, present, _⟩
      cases present
    have kept : ((current.setInbox none).record noteRemoval).Ordered := by
      refine ⟨ordered.once, fun pending => absurd pending absent, ?_, ?_, fun _ => still⟩
      · intro item present
        cases present
      · intro _ removed
        cases removed
    refine ⟨⟨kept, ?_, ?_⟩, noLaunch, rest _ _⟩
    · intro other _
      refine ⟨id, ?_, ?_⟩
      · intro _
        exact ⟨rfl, fun pending => absurd pending (ordered.not_pending still),
          fun _ pending => absurd pending absent⟩
      · intro _ untouched
        exact absurd untouched (ordered.not_untouched still)
    · intro _ _ _ _ pending
      exact absurd pending absent

theorem ordered_cleanupCompletedInboxItems :
    (inboxOrder config route).Respects .cleanup state (cleanupCompletedInboxItems config) := by
  apply respects_elsewhere
  · trivial
  intro now clocked _ _ current since ordered failure after answer starts _ performed
  cases performed
  refine ⟨(SameInbox.refl current).keeps ordered _, noLaunch, ?_⟩
  cases failure with
  | some => exact respects_return_other (by decide)
  | none =>
    cases present : current.inbox with
    | none => exact respects_return_other (by decide)
    | some item =>
      simp only [reading, Future.bind]
      split
      · rename_i status _
        split
        · apply respects_deleteInbox_completed (ordered.completed item present status)
          intro _ after
          exact respects_return_other (by decide)
        · exact respects_return_other (by decide)
      · exact respects_return_other (by decide)

theorem elsewhere_dropOutboxItem : dropOutboxItem.Only Elsewhere := by
  refine Only.perform trivial fun _ => Only.perform trivial fun _ => Only.perform rfl fun _ => ?_
  trivial

theorem elsewhere_retryOutboxItem {now : Nat} {item : RouteOutboxItem}
    {error : RouterActorError} : (retryOutboxItem config now item error).Only Elsewhere := by
  refine Only.perform trivial fun answer => ?_
  cases answer <;> trivial

theorem elsewhere_dispatchOutboxItem (item : RouteOutboxItem) :
    (dispatchOutboxItem config route item).Only Elsewhere := by
  refine Only.perform trivial fun now => ?_
  split
  · exact elsewhere_dropOutboxItem
  split
  · trivial
  refine Only.perform trivial fun found => ?_
  split
  · refine Only.perform trivial fun answer => ?_
    rcases answer with error | _ | packet
    · trivial
    · trivial
    · dsimp only
      split
      · exact elsewhere_dropOutboxItem
      · refine Only.perform trivial fun call => Only.perform trivial fun answer => ?_
        cases answer with
        | error => exact elsewhere_retryOutboxItem
        | ok done =>
          refine Only.perform trivial fun answer => ?_
          cases answer with
          | error => trivial
          | ok => exact Only.perform rfl fun _ => trivial
  · exact elsewhere_retryOutboxItem

theorem elsewhere_processRouteOutbox : (processRouteOutbox config route).Only Elsewhere := by
  refine Only.perform trivial fun answer => ?_
  rcases answer with error | _ | item
  · trivial
  · trivial
  · exact elsewhere_dispatchOutboxItem item

theorem elsewhere_enqueueDurableRemoteRoute :
    (enqueueDurableRemoteRoute config route).Only Elsewhere := by
  refine Only.perform trivial fun now => ?_
  dsimp only
  split
  · exact Only.perform trivial fun _ => trivial
  refine Only.perform rfl fun answer => ?_
  cases answer with
  | error => trivial
  | ok done =>
    refine Only.perform trivial fun answer => ?_
    cases answer with
    | error => exact Only.perform rfl fun _ => trivial
    | ok => exact Only.perform trivial fun _ => trivial

end Others

end YedMQ.Router
