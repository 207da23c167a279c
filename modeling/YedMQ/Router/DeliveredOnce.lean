import YedMQ.Router.InboxOrder

/-! # Runs in order

Along every run whose steps are in order the message of a route is delivered once. Two
requests that overlap are enough to deliver it twice.
-/

namespace YedMQ.Router

open Semantics Future RouteState

variable {config : RouteRetryConfig} {route : DurableRoute}

theorem inboxOrder_sound (targeted : route.targetClientId.isEmpty = false) :
    (inboxOrder config route).Sound where
  launched := by
    intro start state _ launched rests
    have alone : ¬ (inboxOrder config route).Compatible .process .process :=
      fun compatible => compatible.2 ⟨rfl, rfl⟩
    cases launched with
    | dispatch item =>
      apply respects_of_only_elsewhere
      · intro same
        cases same
      · exact elsewhere_dispatchOutboxItem item
    | scanOutbox =>
      apply respects_of_only_elsewhere
      · intro same
        cases same
      · exact elsewhere_processRouteOutbox
    | handler =>
      rw [routeFromOtherNode, targeted]
      exact ordered_acceptRouteFromOtherNode
    | process item current => exact ordered_processInboxItem (rests alone rfl) current
    | scanInbox => exact ordered_processRouteInbox (rests alone rfl)
    | cleanup => exact ordered_cleanupCompletedInboxItems
  event := by
    intro state event after starts ordered admitted happened
    have same : SameInbox state after ∧
        ∀ start ∈ starts, InboxLaunched config route after start := by
      cases event with
      | arrive call =>
        rcases Option.map_eq_some_iff.mp happened with ⟨request, _, equal⟩
        cases equal
        exact ⟨⟨rfl, rfl, rfl, rfl, rfl⟩, List.forall_mem_singleton.mpr (.handler call request)⟩
      | restart =>
        cases happened
        exact ⟨SameInbox.refl state, noLaunch⟩
      | scanOutbox =>
        cases happened
        exact ⟨SameInbox.refl state, List.forall_mem_singleton.mpr .scanOutbox⟩
      | scanInbox =>
        cases happened
        exact ⟨SameInbox.refl state, List.forall_mem_singleton.mpr .scanInbox⟩
      | cleanup =>
        cases happened
        exact ⟨SameInbox.refl state, List.forall_mem_singleton.mpr .cleanup⟩
    refine ⟨same.1.ordered ordered, fun task _ => same.1.since task, ?_, same.2⟩
    -- A restart of the destination ends the worker on the row.
    intro task rests processes
    subst processes
    apply same.1.quiet
    by_cases restarted : event = .restart .destination
    · exact admitted restarted
    · refine rests ?_ rfl
      cases event with
      | restart node =>
        cases node with
        | source => rfl
        | destination => exact absurd rfl restarted
      | _ => rfl

def RoutePool.PolledInOrder (pool : RoutePool) (choose : (op : RouteOp) → op.Choice) :
    Option RouteWorker → Prop
  | some ⟨task, .await op _⟩ => Reckoned task pool.shared op (choose op) ∧
      (op.spawnsProcess = true → pool.vacant RouteTask.isProcess = true)
  | _ => True

instance (pool : RoutePool) (choose : (op : RouteOp) → op.Choice) (worker : Option RouteWorker) :
    Decidable (pool.PolledInOrder choose worker) := by
  unfold RoutePool.PolledInOrder
  split <;> infer_instance

/-- The step is in order: handlers of the route do not overlap, workers on the row do not
either, the outcome of an operation is reckoned with, and the destination is not restarted
between a registration and its completion. -/
def InOrder (pool : RoutePool) : PoolInput RouteOp.Choice RouteEvent → Prop
  | .poll id choose => pool.PolledInOrder choose (pool.workers id)
  | .finish _ => True
  | .environment (.arrive _) => pool.vacant RouteTask.isHandler = true
  | .environment .scanInbox => pool.vacant RouteTask.isProcess = true
  | .environment (.restart .destination) => pool.shared.Quiet
  | .environment (.restart .source) => True
  | .environment .scanOutbox => True
  | .environment .cleanup => True

instance (pool : RoutePool) (input : PoolInput RouteOp.Choice RouteEvent) :
    Decidable (InOrder pool input) := by
  unfold InOrder
  split <;> infer_instance

variable {one : RouteTask}

/-- Two kinds go together unless both are handlers or both work on the row. -/
theorem compatible_of_ne {other : RouteTask}
    (handlers : one.isHandler = true → other.isHandler = true → False)
    (workers : one = .process → other = .process → False) :
    (inboxOrder config route).Compatible one other ∧
      (inboxOrder config route).Compatible other one :=
  ⟨⟨fun both => handlers both.1 both.2, fun both => workers both.1 both.2⟩,
    ⟨fun both => handlers both.2 both.1, fun both => workers both.2 both.1⟩⟩

theorem compatible_dispatch (one : RouteTask) :
    (inboxOrder config route).Compatible one .dispatch ∧
      (inboxOrder config route).Compatible .dispatch one :=
  compatible_of_ne (fun _ handles => by cases handles) fun _ processes => by cases processes

theorem compatible_process (other : one ≠ .process) :
    (inboxOrder config route).Compatible one .process ∧
      (inboxOrder config route).Compatible .process one :=
  compatible_of_ne (fun _ handles => by cases handles) fun processes _ => other processes

theorem compatible_cleanup (one : RouteTask) :
    (inboxOrder config route).Compatible one .cleanup ∧
      (inboxOrder config route).Compatible .cleanup one :=
  compatible_of_ne (fun _ handles => by cases handles) fun _ processes => by cases processes

theorem compatible_handler {call : Nat} (other : one.isHandler = false) :
    (inboxOrder config route).Compatible one (.handler call) ∧
      (inboxOrder config route).Compatible (.handler call) one := by
  apply compatible_of_ne
  · intro handles _
    rw [other] at handles
    cases handles
  · intro _ processes
    cases processes

theorem not_process_of {task : RouteTask} (other : task.isProcess = false) : task ≠ .process := by
  intro processes
  rw [processes] at other
  cases other

theorem kind_of_perform {task : RouteTask} {state after : RouteState} {op : RouteOp}
    {choice : op.Choice} {answer : op.Answer} {starts : List RouteWorker}
    (performed : RouteState.perform config route task state op choice =
      some (after, answer, starts)) :
    ∀ start ∈ starts, start.kind = .dispatch ∨ op.spawnsProcess = true ∧ start.kind = .process := by
  cases op with
  | spawnOutboxDispatch =>
    cases performed
    intro start member
    left
    rw [List.mem_singleton.mp member]
  | spawnInboxProcessing =>
    cases performed
    intro start member
    right
    rw [List.mem_singleton.mp member]
    exact ⟨rfl, rfl⟩
  | awaitResponse =>
    cases choice with
    | some =>
      cases performed
      intro start member
      cases member
    | none =>
      rcases Option.map_eq_some_iff.mp performed with ⟨_, _, same⟩
      cases same
      intro start member
      cases member
  | _ =>
    cases performed
    intro start member
    cases member

theorem inboxOrder_allows {pool : RoutePool} (kept : (inboxOrder config route).Kept pool)
    {input : PoolInput RouteOp.Choice RouteEvent} (inOrder : InOrder pool input) :
    (inboxOrder config route).Allows pool input where
  permits := by
    intro id choose task op resume same present
    subst same
    rw [InOrder, present] at inOrder
    exact inOrder.1
  admits := by
    intro event same restarted
    subst same restarted
    exact inOrder
  together := by
    intro next stepped
    cases input with
    | poll =>
      rcases Pool.step_poll stepped with ⟨task, _, resume, shared, answer, starts, present,
        performed, rfl⟩
      have advanced := kept.together.advance shared (some ⟨task, resume answer⟩) present (by
        intro new same
        cases same
        rfl)
      apply advanced.startAll (startsOrdinary_perform performed).1
      intro other worker beside start member
      rcases kind_of_perform performed start member with dispatches | ⟨spawns, processes⟩
      · rw [dispatches]
        exact compatible_dispatch worker.kind
      · rw [processes]
        apply compatible_process
        rw [InOrder, present] at inOrder
        have free := inOrder.2 spawns
        rcases Pool.of_workers_advance beside with ⟨_, same⟩ | ⟨_, unchanged⟩
        · cases same
          have own := Pool.kind_of_vacant kept.bounded free present
          exact not_process_of own
        · exact not_process_of (Pool.kind_of_vacant kept.bounded free unchanged)
    | finish =>
      rcases Pool.step_finish stepped with ⟨_, _, present, rfl⟩
      exact kept.together.advance _ none present fun new same => by cases same
    | environment event =>
      rcases Pool.step_environment stepped with ⟨shared, _, happened, rfl⟩
      have interrupted := kept.together.interrupt shared event.survives
      apply interrupted.startAll (startsOrdinary_environment happened).1
      intro id worker beside start member
      have present := (Pool.of_workers_interrupt beside).1
      cases event with
      | arrive =>
        rcases Option.map_eq_some_iff.mp happened with ⟨_, _, equal⟩
        cases equal
        rw [List.mem_singleton.mp member]
        exact compatible_handler (Pool.kind_of_vacant kept.bounded inOrder present)
      | restart =>
        cases happened
        cases member
      | scanOutbox =>
        cases happened
        rw [List.mem_singleton.mp member]
        exact compatible_dispatch worker.kind
      | scanInbox =>
        cases happened
        rw [List.mem_singleton.mp member]
        exact compatible_process (not_process_of (Pool.kind_of_vacant kept.bounded inOrder present))
      | cleanup =>
        cases happened
        rw [List.mem_singleton.mp member]
        exact compatible_cleanup worker.kind

theorem inboxOrder_initial (config : RouteRetryConfig) (route : DurableRoute) :
    (inboxOrder config route).Kept (RoutePool.initial config route) := by
  apply Discipline.kept_start ordered_new
  · rintro _ _ ⟨item, present, _⟩
    cases present
  · apply respects_of_only_elsewhere
    · intro same
      cases same
    · exact elsewhere_enqueueDurableRemoteRoute

/-- In every run whose steps are in order, the message of a route to a client with a name
comes to the session once at most, a completed row is never pending again, and a pending row
has its payload. -/
theorem routes_delivered_once (config : RouteRetryConfig) (route : DurableRoute)
    (targeted : route.targetClientId.isEmpty = false)
    (inputs : List (PoolInput RouteOp.Choice RouteEvent))
    (inOrder : EachStep (Pool.step (routing config route)) InOrder
      (RoutePool.initial config route) inputs) :
    Throughout (Pool.step (routing config route))
      (fun pool => pool.shared.DeliveredOnce route) (RoutePool.initial config route) inputs := by
  have kept : Throughout (Pool.step (routing config route))
      (fun pool => (custody config route).Kept pool ∧ (inboxOrder config route).Kept pool)
      (RoutePool.initial config route) inputs := by
    refine throughout_of_eachStep ?_
      ⟨custody_initial config route, inboxOrder_initial config route⟩ inOrder
    intro pool input next both allowed stepped
    exact ⟨(custody_sound targeted).step both.1 (custody_allows both.1 input) stepped,
      (inboxOrder_sound targeted).step both.2 (inboxOrder_allows both.2 allowed) stepped⟩
  intro visited isPrefix reached runs
  rcases kept visited isPrefix reached runs with ⟨inCustody, ordered⟩
  refine ⟨ordered.holds.once, ordered.holds.not_pending, ?_⟩
  intro pending
  rcases (ordered.holds.pending pending).1 with ⟨packet, present⟩
  rw [present, inCustody.holds.payloads .destination packet present]

def delivered : List (PoolInput RouteOp.Choice RouteEvent) :=
  dispatched 6 ++ polls 14 3 5 ++ [.finish 3]

theorem routes_delivered_once_delivered :
    (routeTo "client").targetClientId.isEmpty = false ∧
      EachStep (Pool.step (routing {} (routeTo "client"))) InOrder
        (RoutePool.initial {} (routeTo "client")) delivered ∧
      Throughout (Pool.step (routing {} (routeTo "client")))
        (fun pool => pool.shared.DeliveredOnce (routeTo "client"))
        (RoutePool.initial {} (routeTo "client")) delivered := by
  have inOrder : EachStep (Pool.step (routing {} (routeTo "client"))) InOrder
      (RoutePool.initial {} (routeTo "client")) delivered :=
    eachStep_of_allowedSteps (by decide +kernel)
  exact ⟨by decide, inOrder,
    routes_delivered_once {} (routeTo "client") (by decide) delivered inOrder⟩

/-- The spawned worker and a periodic scan both send the route before they have an answer, and
both handlers find no row. Then the first one stores payload and row, and the worker that it
spawns delivers the message and completes the row. The second handler has stored the payload
already, or does so only now. -/
def sentTwice (before after : Nat) : List (PoolInput RouteOp.Choice RouteEvent) :=
  polls 10 0 4 ++ [.finish 0, .environment .scanOutbox] ++ polls 11 1 4 ++ polls 11 2 5 ++
    [.environment (.arrive 0), .environment (.arrive 1)] ++ polls 12 3 2 ++ polls 12 4 before ++
    polls 13 3 4 ++ polls 14 5 5 ++ polls 15 4 after

def payloadsAfter (inputs : List (PoolInput RouteOp.Choice RouteEvent)) :
    Option (Option RouteInboxItem × Option Packet × RouteHistory) :=
  (run (Pool.step (routing {} (routeTo "client"))) (RoutePool.initial {} (routeTo "client"))
    inputs).map fun pool =>
      (pool.shared.inbox, pool.shared.payloads .destination, pool.shared.history)

/-- Nothing fails in either run. In the first one the completed row becomes pending again and
has no payload, and in the second one the message is registered twice. -/
theorem overlapping_handlers_repeat_route : (∃ pool, run (Pool.step (routing {} (routeTo "client")))
        (RoutePool.initial {} (routeTo "client")) (sentTwice 3 2) = some pool ∧
      pool.shared.history.completed = true ∧ pool.shared.Pending ∧
      pool.shared.payloads .destination = none) ∧
    ∃ pool, run (Pool.step (routing {} (routeTo "client")))
        (RoutePool.initial {} (routeTo "client")) (sentTwice 2 4 ++ polls 16 6 3) = some pool ∧
      pool.shared.history.registrations = 2 := by
  constructor
  · have observed : (payloadsAfter (sentTwice 3 2)).map (fun (inbox, payload, history) =>
        (inbox.map RouteInboxItem.status, payload, history.completed)) =
        some (some .pending, none, true) := by
      decide +kernel
    rcases Option.map_eq_some_iff.mp observed with ⟨⟨inbox, payload, history⟩, reached, equal⟩
    rcases Option.map_eq_some_iff.mp reached with ⟨pool, runs, same⟩
    simp only [Prod.mk.injEq] at same equal
    rcases same with ⟨rfl, rfl, rfl⟩
    rcases Option.map_eq_some_iff.mp equal.1 with ⟨item, present, status⟩
    exact ⟨pool, runs, equal.2.2, ⟨item, present, status⟩, equal.2.1⟩
  · have observed : (payloadsAfter (sentTwice 2 4 ++ polls 16 6 3)).map
        (fun (_, _, history) => history.registrations) = some 2 := by
      decide +kernel
    rcases Option.map_eq_some_iff.mp observed with ⟨⟨inbox, payload, history⟩, reached, equal⟩
    rcases Option.map_eq_some_iff.mp reached with ⟨pool, runs, same⟩
    rcases same with ⟨rfl, rfl, rfl⟩
    exact ⟨pool, runs, equal⟩

end YedMQ.Router
